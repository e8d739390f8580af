import PyIgnite.Queries.Codec

/-!
# PyIgnite.Queries.Query

The request builder of `queries/query.py`. `Query.from_python(stream, values)` reserves the
header, lets the codec of every declared field write `values[name]`, and back-patches the
header: `_build_header` skips `sizeof(header)` bytes and fills in the op code and, when no
`query_id` was given, a random one; `__write_header` sets `length` from the final position, seeks
back and writes the header. `ConfigQuery._build_header` also sets `config_length`.
`from_python_async` is the same loop with `await c_type.from_python_async(...)`; both are
`Query.encode` applied to how a field's codec is called.

* `writeFields_reserved`: when every field's codec appends its encoding, the loop appends the
  encodings in declared order.
* `encode_eq`: on a stream at its end, the result is the old bytes, the header and the body.
* `fromPython_framed`: the frame of `from_python` and `from_python_async` (layout, `length`,
  op code, query id).
* `queryIdField_written`, `configLength_field`: the query id field (the drawn value, or zero
  when the caller gave one) and the `config_length` field, as the code computes them.
-/

namespace PyIgnite

/-- Modelled from the spec: `MIN_LONG` (`pyignite.constants`), the least 64-bit correlation id. -/
def minLong : Int := -2 ^ 63

/-- Modelled from the spec: `MAX_LONG` (`pyignite.constants`), the greatest 64-bit correlation
id. -/
def maxLong : Int := 2 ^ 63 - 1

/-- A value returned by `randint(MIN_LONG, MAX_LONG)`. -/
structure RandLong where
  val : Int
  ge : minLong ≤ val
  le : val ≤ maxLong

inductive ResponseType where
  | response
  | sqlResponse
  deriving Repr, DecidableEq

structure Query where
  cls : QueryClass := .query
  opCode : Int
  following : List (String × DataType) := []
  queryId : Option Int := none
  responseType : ResponseType := .response

abbrev FieldWriter := DataType → BinaryStream → PyObj → Except PyError BinaryStream

namespace Query

/-- `_build_header(stream)`, with `ConfigQuery`'s override. The override reads `header.length`,
which is still zero. -/
def buildHeader (q : Query) (stream : BinaryStream) (rnd : RandLong) : BinaryStream × Header :=
  let stream := stream.seekCur q.cls.sizeof
  let header : Header := { opCode := BitVec.ofInt 16 q.opCode }
  let header := match q.queryId with
    | none => { header with queryId := BitVec.ofInt 64 rnd.val }
    | some _ => header
  match q.cls with
  | .query => (stream, header)
  | .configQuery =>
    (stream, { header with configLength := BitVec.ofInt 32 (header.length.toInt - q.cls.sizeof) })

/-- `__write_header(stream, header, init_pos)`. -/
def writeHeader (cls : QueryClass) (stream : BinaryStream) (header : Header) (initPos : Nat) :
    BinaryStream :=
  let header := { header with
    length := BitVec.ofInt 32 ((stream.tell : Int) - initPos - CType.c_int.sizeof) }
  (stream.seek initPos).write (header.toBytes cls)

/-- The loop `for name, c_type in self.following: c_type.from_python(stream, values[name])`. -/
def writeFields (write : FieldWriter) (values : PyObj) :
    List (String × DataType) → BinaryStream → Except PyError BinaryStream
  | [], stream => .ok stream
  | (name, cType) :: rest, stream => do
    let stream ← write cType stream (← values.getitem name)
    writeFields write values rest stream

theorem writeFields_append (write : FieldWriter) (values : PyObj)
    (fs gs : List (String × DataType)) (stream : BinaryStream) :
    writeFields write values (fs ++ gs) stream =
      writeFields write values fs stream >>= writeFields write values gs := by
  induction fs generalizing stream with
  | nil => rfl
  | cons f fs ih =>
    simp only [List.cons_append, writeFields]
    cases values.getitem f.1 with
    | error e => rfl
    | ok v =>
      simp only [ok_bind]
      cases write f.2 stream v with
      | error e => rfl
      | ok st => exact ih st

/-- The body shared by `from_python` and `from_python_async`. -/
def encode (write : FieldWriter) (q : Query) (stream values : PyObj) (rnd : RandLong) :
    Except PyError BinaryStream := do
  let stream ← stream.asStream
  let initPos := stream.tell
  let (stream, header) := q.buildHeader stream rnd
  let values := if values.truthy then values else .none
  let stream ← writeFields write values q.following stream
  pure (writeHeader q.cls stream header initPos)

def fromPython (codecs : Codecs) : Query → PyObj → PyObj → RandLong → Except PyError BinaryStream :=
  encode (DataType.fromPython codecs)

def fromPythonAsync (codecs : Codecs) :
    Query → PyObj → PyObj → RandLong → Except PyError BinaryStream :=
  encode (DataType.fromPythonAsync codecs)

theorem encode_stream (write : FieldWriter) (q : Query) (s : BinaryStream) (values : PyObj)
    (rnd : RandLong) :
    q.encode write (.stream s) values rnd =
      (writeFields write (if values.truthy then values else .none) q.following
        (q.buildHeader s rnd).1).map
        fun st => writeHeader q.cls st (q.buildHeader s rnd).2 s.pos := by
  simp only [encode, PyObj.asStream_stream, ok_bind, BinaryStream.tell_eq]
  cases writeFields write (if values.truthy then values else .none) q.following
    (q.buildHeader s rnd).1 <;> rfl

theorem encode_asStream_error {stream : PyObj} {e : PyError} (h : stream.asStream = .error e)
    (write : FieldWriter) (q : Query) (values : PyObj) (rnd : RandLong) :
    q.encode write stream values rnd = .error e := by
  simp [encode, h]

/-! ## The header `_build_header` returns -/

section BuildHeader

variable (q : Query) (s : BinaryStream) (rnd : RandLong)

@[simp] theorem buildHeader_fst : (q.buildHeader s rnd).1 = s.seekCur q.cls.sizeof := by
  unfold buildHeader; cases q.cls <;> rfl

@[simp] theorem buildHeader_opCode : (q.buildHeader s rnd).2.opCode = BitVec.ofInt 16 q.opCode := by
  unfold buildHeader; cases q.cls <;> cases q.queryId <;> rfl

theorem buildHeader_queryId :
    (q.buildHeader s rnd).2.queryId =
      match q.queryId with
      | none => BitVec.ofInt 64 rnd.val
      | some _ => 0 := by
  unfold buildHeader; cases q.cls <;> cases q.queryId <;> rfl

theorem buildHeader_queryId_of_some {x : Int} (h : q.queryId = some x) :
    (q.buildHeader s rnd).2.queryId = 0 := by
  rw [buildHeader_queryId, h]

theorem buildHeader_configLength (h : q.cls = .configQuery) :
    (q.buildHeader s rnd).2.configLength = BitVec.ofInt 32 (-18) := by
  unfold buildHeader; rw [h]; cases q.queryId <;> rfl

end BuildHeader

/-! ## Reserve, fill, patch -/

theorem writeFields_reserved {write : FieldWriter} {values : PyObj}
    {enc : String × DataType → List UInt8} (orig : List UInt8) (hsz : Nat) :
    ∀ (fs : List (String × DataType)) (body : List UInt8),
      (∀ f ∈ fs, ∃ v, values.getitem f.1 = .ok v ∧ ∀ st, write f.2 st v = .ok (st.write (enc f))) →
      writeFields write values fs (BinaryStream.reserved orig hsz body) =
        .ok (BinaryStream.reserved orig hsz (body ++ (fs.map enc).flatten))
  | [], body, _ => by simp [writeFields]
  | (name, cType) :: rest, body, h => by
    obtain ⟨v, hv, hw⟩ := h _ (List.mem_cons_self _ _)
    simp only [writeFields, hv, ok_bind, hw, BinaryStream.write_reserved]
    rw [writeFields_reserved orig hsz rest _ fun f hf => h f (List.mem_cons_of_mem _ hf)]
    simp

theorem getitem_normalized {values v : PyObj} {key : String} (h : values.getitem key = .ok v) :
    (if values.truthy then values else .none).getitem key = .ok v := by
  rw [if_pos (PyObj.truthy_of_getitem h), h]

theorem writeFields_normalized {write : FieldWriter} {values : PyObj} {st s : BinaryStream} :
    ∀ {fs : List (String × DataType)}, writeFields write values fs st = .ok s →
      writeFields write (if values.truthy then values else .none) fs st = .ok s
  | [], h => h
  | (name, _) :: _, h => by
    rw [writeFields] at h
    obtain ⟨v, hv, -⟩ := bind_eq_ok h
    rwa [if_pos (PyObj.truthy_of_getitem hv)]

theorem encode_stops {write : FieldWriter} {q : Query} {values : PyObj} {rnd : RandLong}
    {pre post : List (String × DataType)} {name : String} {t : DataType} {s : BinaryStream}
    {e : PyError} (hq : q.following = pre ++ (name, t) :: post)
    (hpre : writeFields write values pre (q.buildHeader .empty rnd).1 = .ok s)
    (he : ((if values.truthy then values else .none).getitem name >>= write t s) = .error e) :
    q.encode write (.stream .empty) values rnd = .error e := by
  rw [encode_stream, hq, writeFields_append, writeFields_normalized hpre, ok_bind, writeFields]
  cases hg : (if values.truthy then values else .none).getitem name with
  | error e' => rw [hg] at he; cases he; rfl
  | ok v => rw [hg, ok_bind] at he; simp only [ok_bind, he]; rfl

theorem encode_prefix_error {write : FieldWriter} {q : Query} {values : PyObj} {rnd : RandLong}
    {pre post : List (String × DataType)} {e : PyError} (hq : q.following = pre ++ post)
    (ht : values.truthy = true)
    (hpre : writeFields write values pre (q.buildHeader .empty rnd).1 = .error e) :
    q.encode write (.stream .empty) values rnd = .error e := by
  rw [encode_stream, if_pos ht, hq, writeFields_append, hpre]
  rfl

theorem getitem_missing {values : PyObj} {name : String}
    (hv : values = .none ∨ ∃ es, values = .dict es ∧ es.lookup name = none) :
    (if values.truthy then values else .none).getitem name =
      .error (if values.truthy then .keyError name
        else .typeError "\x27NoneType\x27 object is not subscriptable") := by
  rcases hv with rfl | ⟨es, rfl, hl⟩
  · rfl
  · by_cases h : (PyObj.dict es).truthy
    · simp [h, PyObj.getitem, hl]
    · simp only [h, Bool.false_eq_true, if_false]
      rfl

def patchedHeader (q : Query) (s : BinaryStream) (rnd : RandLong) (n : Nat) : Header :=
  { (q.buildHeader s rnd).2 with length := BitVec.ofInt 32 ((q.cls.sizeof : Int) - 4 + n) }

theorem writeHeader_reserved (cls : QueryClass) (orig body : List UInt8) (header : Header) :
    writeHeader cls (BinaryStream.reserved orig cls.sizeof body) header orig.length =
      ⟨orig ++ { header with
          length := BitVec.ofInt 32 ((cls.sizeof : Int) - 4 + body.length) }.toBytes cls ++ body,
        orig.length + cls.sizeof⟩ := by
  have hlen : ((BinaryStream.reserved orig cls.sizeof body).tell : Int) - orig.length -
      CType.c_int.sizeof = cls.sizeof - 4 + body.length := by
    simp [BinaryStream.reserved, CType.sizeof]; omega
  have hp := BinaryStream.patch_reserved orig body
    ({ header with length := BitVec.ofInt 32 ((cls.sizeof : Int) - 4 + body.length) }.toBytes cls)
  rw [Header.length_toBytes] at hp
  rw [writeHeader, hlen, hp]

theorem encode_eq {write : FieldWriter} {q : Query} {s : BinaryStream} (hs : s.pos = s.buf.length)
    {values : PyObj} (enc : String × DataType → List UInt8)
    (h : ∀ f ∈ q.following, ∃ v, values.getitem f.1 = .ok v ∧
      ∀ st, write f.2 st v = .ok (st.write (enc f))) (rnd : RandLong) :
    q.encode write (.stream s) values rnd =
      .ok ⟨s.buf ++ (q.patchedHeader s rnd ((q.following.map enc).flatten.length)).toBytes q.cls ++
        (q.following.map enc).flatten, s.buf.length + q.cls.sizeof⟩ := by
  obtain ⟨orig, pos⟩ := s
  simp only at hs
  subst hs
  have hw := writeFields_reserved orig q.cls.sizeof q.following [] fun f hf => by
    obtain ⟨v, hv, hw⟩ := h f hf
    exact ⟨v, getitem_normalized hv, hw⟩
  rw [List.nil_append] at hw
  simp only [encode, PyObj.asStream_stream, ok_bind, buildHeader_fst, BinaryStream.tell_eq,
    BinaryStream.seekCur_reserve, hw, pure_except, writeHeader_reserved]
  rfl

/-! ## The frame -/

theorem patchedHeader_fields (q : Query) (s : BinaryStream) (rnd : RandLong) (n : Nat) :
    ((q.patchedHeader s rnd n).toBytes q.cls).take 4 =
        leBytes 4 (BitVec.ofInt 32 ((q.cls.sizeof : Int) - 4 + n)).toNat ∧
      (((q.patchedHeader s rnd n).toBytes q.cls).drop 4).take 2 =
        leBytes 2 (BitVec.ofInt 16 q.opCode).toNat ∧
      (((q.patchedHeader s rnd n).toBytes q.cls).drop 6).take 8 =
        leBytes 8 (q.buildHeader s rnd).2.queryId.toNat := by
  unfold patchedHeader
  cases q.cls <;> simp [Header.toBytes, List.take_append_eq_append_take,
    List.drop_append_eq_append_drop]

theorem patchedHeader_queryId (q : Query) (s : BinaryStream) (rnd : RandLong) (n : Nat) :
    leSigned ((((q.patchedHeader s rnd n).toBytes q.cls).drop 6).take 8) =
      match q.queryId with
      | none => rnd.val
      | some _ => 0 := by
  rw [(patchedHeader_fields q s rnd n).2.2, buildHeader_queryId]
  cases q.queryId with
  | none =>
    have h₁ := rnd.ge
    have h₂ := rnd.le
    rw [minLong] at h₁
    rw [maxLong] at h₂
    exact leSigned_ofInt (k := 8) (by norm_num) (by norm_num; omega) (by norm_num; omega)
  | some _ => exact (leSigned_toNat (k := 8) (by norm_num) 0).trans (by simp)

/-- The `query_id` field of every header `__write_header` writes, whatever the body, and of the
header in the bytes `from_python` leaves on a stream at its end: the value `randint` drew when the
query has no `query_id`, and zero when the caller supplied one. -/
theorem queryIdField_written (q : Query) (s : BinaryStream) (rnd : RandLong) :
    let expected : Int := match q.queryId with
      | none => rnd.val
      | some _ => 0
    (∀ n, leSigned ((((q.patchedHeader s rnd n).toBytes q.cls).drop 6).take 8) = expected) ∧
    ∀ (codecs : Codecs) (values : PyObj) (enc : String × DataType → List UInt8),
      s.pos = s.buf.length →
      (∀ f ∈ q.following, ∃ v, values.getitem f.1 = .ok v ∧
        ∀ st, DataType.fromPython codecs f.2 st v = .ok (st.write (enc f))) →
      ∃ hdr : List UInt8, hdr.length = q.cls.sizeof ∧
        q.fromPython codecs (.stream s) values rnd =
          .ok ⟨s.buf ++ hdr ++ (q.following.map enc).flatten, s.buf.length + q.cls.sizeof⟩ ∧
        leSigned ((hdr.drop 6).take 8) = expected :=
  ⟨patchedHeader_queryId q s rnd, fun _ _ enc hs h =>
    ⟨_, Header.length_toBytes _ _, encode_eq hs enc h rnd, patchedHeader_queryId q s rnd _⟩⟩

theorem drawnQueryId_written :
    let codecs : Codecs := ⟨fun _ st _ => .ok st, fun _ st _ => .ok st, fun _ => [], fun _ => []⟩
    let q : Query := { opCode := 5 }
    let rnd : RandLong := ⟨7, by decide, by decide⟩
    ∃ hdr : List UInt8, hdr.length = 14 ∧
      q.fromPython codecs (.stream .empty) (.dict []) rnd = .ok ⟨hdr, 14⟩ ∧
      leSigned ((hdr.drop 6).take 8) = 7 := by
  intro codecs q rnd
  obtain ⟨hdr, hl, hst, hid⟩ :=
    (queryIdField_written q .empty rnd).2 codecs (.dict []) (fun _ => []) rfl
      (fun f hf => by cases hf)
  exact ⟨hdr, hl, by simpa using hst, hid⟩

/-- The frame `from_python` leaves on a stream `s` that stood at its end: the old bytes, a header
of `sizeof` bytes, the body. The header's int32 `length` counts the bytes after it, its int16
field is the op code and its int64 field the query id `_build_header` chose. -/
def Framed (q : Query) (s : BinaryStream) (rnd : RandLong) (body : List UInt8)
    (r : Except PyError BinaryStream) : Prop :=
  ∃ hdr : List UInt8, hdr.length = q.cls.sizeof ∧
    r = .ok ⟨s.buf ++ hdr ++ body, s.buf.length + q.cls.sizeof⟩ ∧
    leSigned (hdr.take 4) = (hdr.length : Int) - 4 + body.length ∧
    leSigned ((hdr.drop 4).take 2) = q.opCode ∧
    leSigned ((hdr.drop 6).take 8) = (q.buildHeader s rnd).2.queryId.toInt

theorem encode_framed {write : FieldWriter} {q : Query} {s : BinaryStream}
    (hs : s.pos = s.buf.length) (hop : -2 ^ 15 ≤ q.opCode ∧ q.opCode < 2 ^ 15) {values : PyObj}
    (enc : String × DataType → List UInt8)
    (h : ∀ f ∈ q.following, ∃ v, values.getitem f.1 = .ok v ∧
      ∀ st, write f.2 st v = .ok (st.write (enc f)))
    (hlen : q.cls.sizeof + ((q.following.map enc).flatten).length < 2 ^ 31) (rnd : RandLong) :
    Framed q s rnd (q.following.map enc).flatten (q.encode write (.stream s) values rnd) := by
  obtain ⟨h4, h2, h8⟩ := patchedHeader_fields q s rnd ((q.following.map enc).flatten.length)
  have h14 : 14 ≤ q.cls.sizeof := by cases q.cls <;> simp
  refine ⟨_, Header.length_toBytes _ _, encode_eq hs enc h rnd, ?_, ?_, ?_⟩
  · rw [h4, Header.length_toBytes]
    exact leSigned_ofInt (k := 4) (by norm_num) (by push_cast; omega) (by push_cast; omega)
  · rw [h2]
    exact leSigned_ofInt (k := 2) (by norm_num) hop.1 hop.2
  · rw [h8]
    exact leSigned_toNat (k := 8) (by norm_num) _

theorem fromPython_framed {codecs : Codecs} {q : Query} {s : BinaryStream}
    (hs : s.pos = s.buf.length) (hop : -2 ^ 15 ≤ q.opCode ∧ q.opCode < 2 ^ 15) {values : PyObj}
    (enc : String × DataType → List UInt8)
    (hsync : ∀ f ∈ q.following, ∃ v, values.getitem f.1 = .ok v ∧
      ∀ st, DataType.fromPython codecs f.2 st v = .ok (st.write (enc f)))
    (hasync : ∀ f ∈ q.following, ∃ v, values.getitem f.1 = .ok v ∧
      ∀ st, DataType.fromPythonAsync codecs f.2 st v = .ok (st.write (enc f)))
    (hlen : q.cls.sizeof + ((q.following.map enc).flatten).length < 2 ^ 31) (rnd : RandLong) :
    Framed q s rnd (q.following.map enc).flatten (q.fromPython codecs (.stream s) values rnd) ∧
      Framed q s rnd (q.following.map enc).flatten
        (q.fromPythonAsync codecs (.stream s) values rnd) :=
  ⟨encode_framed hs hop enc hsync hlen rnd, encode_framed hs hop enc hasync hlen rnd⟩

theorem cacheInfoRequest_framed :
    let codecs : Codecs := ⟨fun _ _ _ => .error (.other "" ""), fun _ _ _ => .error (.other "" ""),
      fun _ => [], fun _ => []⟩
    let q : Query := { opCode := 0, following := [("cache_info", .cacheInfo)] }
    let rnd : RandLong := ⟨0, by decide, by decide⟩
    Framed q .empty rnd [0, 0, 0, 0, 0]
        (q.fromPython codecs (.stream .empty) (.dict [("cache_info", .none)]) rnd) ∧
      Framed q .empty rnd [0, 0, 0, 0, 0]
        (q.fromPythonAsync codecs (.stream .empty) (.dict [("cache_info", .none)]) rnd) := by
  intro codecs q rnd
  have hw : ∀ st,
      CacheInfo.fromPython codecs.writePolicy st .none = .ok (st.write [0, 0, 0, 0, 0]) :=
    fun st => CacheInfo.fromPython_eq codecs.writePolicy st none (by simp)
  exact fromPython_framed rfl (by norm_num) (fun _ => [0, 0, 0, 0, 0])
    (by simpa [q] using hw) (by simpa [q] using hw) (by norm_num) rnd

theorem configLength_field (q : Query) (hcls : q.cls = .configQuery) (s : BinaryStream)
    (rnd : RandLong) (n : Nat) :
    leSigned ((((q.patchedHeader s rnd n).toBytes q.cls).drop 14).take 4) = -18 := by
  have hc := buildHeader_configLength q s rnd hcls
  rw [hcls]
  simp [patchedHeader, Header.toBytes, List.drop_append_eq_append_drop, hc]
  rfl

/-- A `ConfigQuery` without fields on an empty stream: an 18-byte frame with an empty body, whose
`config_length` field reads `-18`. -/
theorem configQuery_empty_configLength (codecs : Codecs) (op : Int) (rnd : RandLong) :
    ∃ s', ({ cls := .configQuery, opCode := op } : Query).fromPython codecs
        (.stream .empty) (.dict []) rnd = .ok s' ∧
      s'.buf.length = 18 ∧ leSigned ((s'.buf.drop 14).take 4) = -18 := by
  refine ⟨_, encode_eq rfl (fun _ => []) (by simp) rnd, ?_, ?_⟩
  · simp only [List.length_append, Header.length_toBytes]
    rfl
  · rw [BinaryStream.empty_buf, List.nil_append]
    exact configLength_field { cls := .configQuery, opCode := op } rfl .empty rnd 0

/-- A `Query` given `query_id = 1`: the correlation-id field of its frame reads `0`. -/
theorem query_suppliedId_written_as_zero (codecs : Codecs) (op : Int) (rnd : RandLong) :
    ∃ s', ({ opCode := op, queryId := some 1 } : Query).fromPython codecs
        (.stream .empty) (.dict []) rnd = .ok s' ∧
      leSigned ((s'.buf.drop 6).take 8) = 0 := by
  refine ⟨_, encode_eq rfl (fun _ => []) (by simp) rnd, ?_⟩
  have h8 := (patchedHeader_fields { opCode := op, queryId := some 1 } .empty rnd 0).2.2
  rw [buildHeader_queryId_of_some _ _ _ rfl] at h8
  rw [BinaryStream.empty_buf, List.nil_append]
  exact (congrArg leSigned h8).trans rfl

end Query

end PyIgnite
