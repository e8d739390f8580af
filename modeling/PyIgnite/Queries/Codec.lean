import PyIgnite.Queries.Header

/-!
# PyIgnite.Queries.Codec

How a request field is written. A request declares its fields as `(name, data type)` pairs; the
data types of `pyignite.datatypes` are not among the sources, and the spec treats them as an
opaque capability, "encode a value of kind K to a stream", in a blocking and a cooperative form.
`Codecs` takes that capability as a parameter. The one codec the sources define,
`CacheInfo.from_python` (the cache-context block), is modelled here.

* `CacheInfo.fromPython_eq`: the block written for a `CacheInfo` or `None`: the signed
  little-endian `cache_id`, a flags byte with bit `0x04` exactly when an expiry policy is
  present, then the policy payload; or `NotSupportedByClusterError` when the cluster does not
  support expiry policies.
* `CacheInfo.fromPython_overflow`: a `cache_id` outside int32 raises `OverflowError` first,
  whatever the policy.
* `DataType.fromPython`, `DataType.fromPythonAsync`: the dispatch of `c_type.from_python` and
  `c_type.from_python_async` over the declared type.
-/

namespace PyIgnite

/-- Modelled from the spec: the codec capability of `pyignite.datatypes` for every data type
but `CacheInfo`: `from_python` and `from_python_async` write a value to a stream or raise;
`type_code` is a type's wire code; `ExpiryPolicy.write_policy` writes a policy's payload. -/
structure Codecs where
  fromPython : DataType → BinaryStream → PyObj → Except PyError BinaryStream
  fromPythonAsync : DataType → BinaryStream → PyObj → Except PyError BinaryStream
  typeCode : DataType → List UInt8
  writePolicy : ExpiryPolicy → List UInt8

/-- `value.cache_id if value else 0` and `value.expiry_policy if value else None`: a false value
reads as no record; a true one must be a `CacheInfo`. -/
def PyObj.asCacheInfo : PyObj → Except PyError (Option CacheInfo)
  | .cacheInfo i => .ok (some i)
  | o => if o.truthy then
      .error (.attributeError s!"\x27{o.typeName}\x27 object has no attribute \x27cache_id\x27")
    else .ok Option.none

namespace CacheInfo

def expiryPolicyUnsupported : String :=
  "\x27ExpiryPolicy\x27 API is not supported by the cluster"

def fromPython (writePolicy : ExpiryPolicy → List UInt8) (stream : BinaryStream)
    (value : PyObj) : Except PyError BinaryStream := do
  let info ← value.asCacheInfo
  let cacheId := match info with
    | some i => i.cacheId
    | none => 0
  let expiryPolicy := info.bind (·.expiryPolicy)
  let flags : Nat := 0
  let stream := stream.write (← intToBytes cacheId 4 true)
  let flags ← match expiryPolicy, info with
    | some _, some i =>
      if !i.protocolContext.isExpiryPolicySupported then
        throw (.notSupportedByClusterError expiryPolicyUnsupported)
      else pure (flags ||| 0x04)
    | _, _ => pure flags
  let stream := stream.write (← intToBytes flags 1 false)
  match expiryPolicy with
  | some p => pure (stream.write (writePolicy p))
  | none => pure stream

def flags (i : Option CacheInfo) : UInt8 :=
  if (i.bind (·.expiryPolicy)).isSome then 0x04 else 0

/-- The cache-context block: `cache_id` as a signed little-endian int32, the flags byte, and
the policy payload when there is a policy. -/
def block (writePolicy : ExpiryPolicy → List UInt8) (i : Option CacheInfo) : List UInt8 :=
  let cacheId := match i with
    | some i => i.cacheId
    | none => 0
  leBytes 4 (cacheId % 2 ^ 32).toNat ++ [flags i] ++
    match i.bind (·.expiryPolicy) with
    | some p => writePolicy p
    | none => []

def refused (i : Option CacheInfo) : Bool :=
  match i with
  | some i => i.expiryPolicy.isSome && !i.protocolContext.isExpiryPolicySupported
  | none => false

theorem fromPython_eq (writePolicy : ExpiryPolicy → List UInt8) (stream : BinaryStream)
    (i : Option CacheInfo)
    (hid : ∀ c ∈ i, -2 ^ 31 ≤ c.cacheId ∧ c.cacheId < 2 ^ 31) :
    fromPython writePolicy stream (match i with | some c => .cacheInfo c | none => .none) =
      if refused i then .error (.notSupportedByClusterError expiryPolicyUnsupported)
      else .ok (stream.write (block writePolicy i)) := by
  have h0 : intToBytes 0 1 false = .ok [0] := rfl
  have h4 : intToBytes 4 1 false = .ok [4] := rfl
  rcases i with _ | ⟨cid, pol, ctx⟩
  · simp [fromPython, PyObj.asCacheInfo, PyObj.truthy, refused, block, flags, intToBytes,
      BinaryStream.write_append]
  · obtain ⟨h₁, h₂⟩ := hid _ rfl
    have hb := @intToBytes_signed _ 4 h₁ h₂
    rcases pol with _ | p <;> cases hs : ctx.isExpiryPolicySupported <;>
      simp [fromPython, PyObj.asCacheInfo, refused, block, flags, hb, hs, h0, h4,
        BinaryStream.write_append]

theorem fromPython_overflow (writePolicy : ExpiryPolicy → List UInt8) (stream : BinaryStream)
    (c : CacheInfo) (h : ¬ (-2 ^ 31 ≤ c.cacheId ∧ c.cacheId < 2 ^ 31)) :
    fromPython writePolicy stream (.cacheInfo c) =
      .error (.overflowError "int too big to convert") := by
  simp [fromPython, PyObj.asCacheInfo, @intToBytes_signed_error _ 4 h]

end CacheInfo

namespace DataType

def fromPython (codecs : Codecs) : DataType → BinaryStream → PyObj → Except PyError BinaryStream
  | .cacheInfo => CacheInfo.fromPython codecs.writePolicy
  | dt => codecs.fromPython dt

def fromPythonAsync (codecs : Codecs) :
    DataType → BinaryStream → PyObj → Except PyError BinaryStream
  | .cacheInfo => CacheInfo.fromPython codecs.writePolicy
  | dt => codecs.fromPythonAsync dt

end DataType

end PyIgnite
