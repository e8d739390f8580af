import PyIgnite.Stream
import Mathlib.Data.Int.Bitwise

/-!
# PyIgnite.Python

The Python values and exceptions that flow through the query layer.

The request builder is dynamically typed: `Query.from_python(stream, values)` takes whatever
object is bound to `stream`, normalises `values` by truthiness and subscripts it by field name,
and the codecs receive the values they find there. `PyObj` is the set of values the sources
pass around (ints, strings, lists, dicts, `CacheInfo` records, streams, data type classes),
`PyError` the exceptions they raise or let through. Python's `int` is unbounded and its `&`,
`^`, `>>` act on the infinite two's-complement expansion; they are `Int.land`, `Int.xor` and
`>>>` on `Int`.

* `PyObj.truthy`, `PyObj.getitem`, `PyObj.asStream`: truth testing, `o[key]` on a dict, and the
  first attribute a stream argument must have.
* `intToBytes`: `int.to_bytes(length, byteorder='little', signed=...)`, which raises
  `OverflowError` out of range; `intToBytes_signed` is its successful case.
-/

namespace PyIgnite

/-! ## Exceptions -/

section Except

variable {ε α β : Type}

@[simp] theorem ok_bind (a : α) (f : α → Except ε β) : (Except.ok a >>= f) = f a := rfl
@[simp] theorem error_bind (e : ε) (f : α → Except ε β) : (Except.error e >>= f) = .error e := rfl
@[simp] theorem pure_except (a : α) : (pure a : Except ε α) = .ok a := rfl
@[simp] theorem throw_except (e : ε) : (throw e : Except ε α) = .error e := rfl
@[simp] theorem ok_map (a : α) (f : α → β) : (Except.ok a : Except ε α).map f = .ok (f a) := rfl
@[simp] theorem error_map (e : ε) (f : α → β) : (Except.error e : Except ε α).map f = .error e :=
  rfl

theorem bind_eq_ok {x : Except ε α} {f : α → Except ε β} {b : β} (h : (x >>= f) = .ok b) :
    ∃ a, x = .ok a ∧ f a = .ok b := by
  cases x with
  | error e => cases h
  | ok a => exact ⟨a, rfl, h⟩

end Except

/-- The exceptions of the query layer. `other` stands for what code outside the sources raises
(a codec rejecting a value, a broken connection); it propagates unchanged. -/
inductive PyError where
  | attributeError (msg : String)
  | keyError (key : String)
  | typeError (msg : String)
  | overflowError (msg : String)
  | notSupportedByClusterError (msg : String)
  | other (cls msg : String)
  deriving Repr, DecidableEq

/-- Modelled from the spec: an expiry policy (`pyignite.datatypes.ExpiryPolicy`), the three
durations in milliseconds; its wire payload is written by `ExpiryPolicy.write_policy`. -/
structure ExpiryPolicy where
  create : Int
  update : Int
  access : Int
  deriving Repr, DecidableEq

/-- Modelled from the spec: the negotiated protocol context, as far as a request asks it
anything: whether the cluster supports expiry policies. -/
structure ProtocolContext where
  isExpiryPolicySupported : Bool
  deriving Repr, DecidableEq

/-- `CacheInfo` (`queries/query.py`): the cache-context block of a request. -/
structure CacheInfo where
  cacheId : Int
  expiryPolicy : Option ExpiryPolicy
  protocolContext : ProtocolContext
  deriving Repr, DecidableEq

inductive DataType where
  | int
  | long
  | byte
  | bool
  | string
  | null
  | map
  | anyDataArray
  | anyDataObject
  | statementType
  | binaryFieldsStruct
  | enumStruct
  | schemaStruct
  | structArray (fields : List (String × DataType))
  | cacheInfo
  | other (name : String)
  deriving Repr

/-- The Python values of the query layer; `dataType` is a data type class such as `Int`. -/
inductive PyObj where
  | none
  | bool (b : Bool)
  | int (v : Int)
  | str (s : String)
  | bytes (bs : List UInt8)
  | list (xs : List PyObj)
  | dict (entries : List (String × PyObj))
  | cacheInfo (info : CacheInfo)
  | stream (s : BinaryStream)
  | dataType (t : DataType)
  deriving Repr

namespace PyObj

def typeName : PyObj → String
  | none => "NoneType"
  | bool _ => "bool"
  | int _ => "int"
  | str _ => "str"
  | bytes _ => "bytes"
  | list _ => "list"
  | dict _ => "dict"
  | cacheInfo _ => "CacheInfo"
  | stream _ => "BinaryStream"
  | dataType _ => "type"

def truthy : PyObj → Bool
  | none => false
  | bool b => b
  | int v => v != 0
  | str s => !s.isEmpty
  | bytes bs => !bs.isEmpty
  | list xs => !xs.isEmpty
  | dict es => !es.isEmpty
  | cacheInfo _ => true
  | stream _ => true
  | dataType _ => true

def getitem (o : PyObj) (key : String) : Except PyError PyObj :=
  match o with
  | dict es =>
    match es.lookup key with
    | some v => .ok v
    | Option.none => .error (.keyError key)
  | list _ => .error (.typeError "list indices must be integers or slices, not str")
  | str _ => .error (.typeError "string indices must be integers")
  | o => .error (.typeError s!"\x27{o.typeName}\x27 object is not subscriptable")

def asStream : PyObj → Except PyError BinaryStream
  | stream s => .ok s
  | o => .error (.attributeError s!"\x27{o.typeName}\x27 object has no attribute \x27tell\x27")

@[simp] theorem getitem_dict (es : List (String × PyObj)) (key : String) :
    (dict es).getitem key = match es.lookup key with
      | some v => .ok v
      | Option.none => .error (.keyError key) := rfl

@[simp] theorem asStream_stream (s : BinaryStream) : (stream s).asStream = .ok s := rfl

theorem truthy_of_getitem {o v : PyObj} {key : String} (h : o.getitem key = .ok v) :
    o.truthy = true := by
  cases o <;> simp_all [getitem, truthy]
  rintro rfl
  simp at h

end PyObj

def intToBytes (v : Int) (length : Nat) (signed : Bool) : Except PyError (List UInt8) :=
  if signed then
    if -2 ^ (8 * length - 1) ≤ v ∧ v < 2 ^ (8 * length - 1) then
      .ok (leBytes length (v % 2 ^ (8 * length)).toNat)
    else .error (.overflowError "int too big to convert")
  else if v < 0 then .error (.overflowError "can\x27t convert negative int to unsigned")
  else if v < 2 ^ (8 * length) then .ok (leBytes length v.toNat)
  else .error (.overflowError "int too big to convert")

theorem intToBytes_signed {v : Int} {length : Nat} (h₁ : -2 ^ (8 * length - 1) ≤ v)
    (h₂ : v < 2 ^ (8 * length - 1)) :
    intToBytes v length true = .ok (leBytes length (v % 2 ^ (8 * length)).toNat) := by
  simp [intToBytes, h₁, h₂]

theorem intToBytes_signed_error {v : Int} {length : Nat}
    (h : ¬ (-2 ^ (8 * length - 1) ≤ v ∧ v < 2 ^ (8 * length - 1))) :
    intToBytes v length true = .error (.overflowError "int too big to convert") := by
  simp only [intToBytes, if_true, if_neg h]

end PyIgnite
