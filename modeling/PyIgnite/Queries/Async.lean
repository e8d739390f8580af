import PyIgnite.Queries.Perform

/-!
# PyIgnite.Queries.Async

`Query.perform_async`, the cooperative mirror of `perform`, as a coroutine. A task of
`perform_async` runs without interruption from one `await` to the next; at an `await` the event
loop may run other tasks. `Task` is the point where a task stands, `Task.step` runs it to its
next `await`:

* `start`: created; its first slice builds the header (`from_python_async` up to its loop);
* `encoding`: in the loop of `from_python_async`, at `await c_type.from_python_async(...)` for
  the first of the remaining fields;
* `requesting`: at `await conn.request(...)`;
* `parsing`: at `await response_struct.parse_async(stream)`; the slice after it runs
  `__post_process_response`, the only code that touches the shared client;
* `decoding`: at `await response_struct.to_python_async(response)`, on status 0;
* `done`: returned or raised.

`Query.performAsync` is the task awaited on its own, with no other task interleaved.

* `run_encoding`: the loop of `from_python_async`, step by step, computes `Query.writeFields`.
* `performAsync_eq`: run alone, a task finishes within `|following| + 5` steps with the outcome
  of `perform` on the cooperative codecs and reader.
* `queryPerformAsync_eq_queryPerform`: when the cooperative codecs and reader agree with the
  blocking ones, `query_perform` gives the same outcome on both paths.
* `perform_refusedCacheInfo`: a `CacheInfo` value the cluster refuses stops the request on both
  paths before `conn.request`, once the fields before it are written; a field that fails
  earlier raises its own error first, also before `conn.request`.
* `perform_cacheIdOverflow`: a `cache_id` outside int32 stops the request on both paths with
  `OverflowError`, before the expiry policy is looked at.
* `perform_missingField`: a field missing from the parameters stops the request on both paths:
  `KeyError` from a non-empty dict, `TypeError` from an empty one or `None`.
-/

namespace PyIgnite

def Codecs.async (codecs : Codecs) : Codecs := { codecs with fromPython := codecs.fromPythonAsync }

def Reader.async (reader : Reader) : Reader :=
  { reader with parse := reader.parseAsync, toPython := reader.toPythonAsync }

theorem fromPython_async (codecs : Codecs) :
    DataType.fromPython codecs.async = DataType.fromPythonAsync codecs := by
  funext dt; cases dt <;> rfl

structure Call where
  query : Query
  protocolContext : ProtocolContext
  queryParams : PyObj
  responseConfig : List (String × DataType)
  kwargs : List (String × PyObj)

def Call.spec (call : Call) : ResponseSpec :=
  ⟨call.query.responseType, call.protocolContext, call.responseConfig, call.kwargs⟩

/-- Where a task of `perform_async` stands. `start` carries the value `randint` will draw. -/
inductive Task where
  | start (call : Call) (rnd : RandLong)
  | encoding (call : Call) (header : Header) (initPos : Nat) (values : PyObj)
      (rest : List (String × DataType)) (stream : BinaryStream)
  | requesting (call : Call) (sent : List UInt8)
  | parsing (call : Call) (sent : List UInt8) (data : List UInt8)
  | decoding (call : Call) (sent : List UInt8) (result : APIResult) (response : Response)
  | done (sent : Option (List UInt8)) (result : Except PyError APIResult)

namespace Task

variable (codecs : Codecs) (reader : Reader) (request : List UInt8 → Except PyError (List UInt8))

/-- Resume a task and run it to its next `await`, on the shared `client`; `request` answers its
`await conn.request(...)`. -/
def step (client : Client) : Task → Client × Task
  | start call rnd =>
    let stream := BinaryStream.empty
    let initPos := stream.tell
    let (stream, header) := call.query.buildHeader stream rnd
    let values := if call.queryParams.truthy then call.queryParams else .none
    (client, encoding call header initPos values call.query.following stream)
  | encoding call header initPos values ((name, cType) :: rest) stream =>
    match values.getitem name >>= cType.fromPythonAsync codecs stream with
    | .ok stream => (client, encoding call header initPos values rest stream)
    | .error e => (client, done none (.error e))
  | encoding call header initPos _ [] stream =>
    (client, requesting call (Query.writeHeader call.query.cls stream header initPos).getvalue)
  | requesting call sent =>
    match request sent with
    | .ok data => (client, parsing call sent data)
    | .error e => (client, done (some sent) (.error e))
  | parsing call sent data =>
    match reader.parseAsync call.spec data with
    | .error e => (client, done (some sent) (.error e))
    | .ok response =>
      let (client, result) := Query.postProcessResponse client response
      if result.status = 0 then (client, decoding call sent result response)
      else (client, done (some sent) (.ok result))
  | decoding call sent result response =>
    match reader.valueAsync call.spec response with
    | .ok v => (client, done (some sent) (.ok { result with value := v }))
    | .error e => (client, done (some sent) (.error e))
  | done sent result => (client, done sent result)

def run : Nat → Client → Task → Client × Task
  | 0, client, t => (client, t)
  | n + 1, client, t =>
    run n (t.step codecs reader request client).1 (t.step codecs reader request client).2

@[simp] theorem run_zero (client : Client) (t : Task) :
    run codecs reader request 0 client t = (client, t) := rfl

theorem run_succ (n : Nat) (client : Client) (t : Task) :
    run codecs reader request (n + 1) client t =
      run codecs reader request n (t.step codecs reader request client).1
        (t.step codecs reader request client).2 := rfl

@[simp] theorem run_done (n : Nat) (client : Client) (sent : Option (List UInt8))
    (result : Except PyError APIResult) :
    run codecs reader request n client (done sent result) = (client, done sent result) := by
  induction n with
  | zero => rfl
  | succ n ih => rw [run_succ]; exact ih

theorem run_add (m n : Nat) (client : Client) (t : Task) :
    run codecs reader request (m + n) client t =
      run codecs reader request n (run codecs reader request m client t).1
        (run codecs reader request m client t).2 := by
  induction m generalizing client t with
  | zero => rw [Nat.zero_add]; rfl
  | succ m ih => rw [Nat.add_right_comm, run_succ, run_succ, ih]

theorem run_start (client : Client) (call : Call) (rnd : RandLong) :
    run codecs reader request 1 client (start call rnd) =
      (client, encoding call (call.query.buildHeader .empty rnd).2 0
        (if call.queryParams.truthy then call.queryParams else .none) call.query.following
        (call.query.buildHeader .empty rnd).1) := rfl

theorem run_encoding_nil (client : Client) (call : Call) (header : Header) (initPos : Nat)
    (values : PyObj) (stream : BinaryStream) :
    run codecs reader request 1 client (encoding call header initPos values [] stream) =
      (client, requesting call (Query.writeHeader call.query.cls stream header initPos).getvalue) :=
  rfl

theorem run_encoding (call : Call) (header : Header) (initPos : Nat) (values : PyObj)
    (client : Client) :
    ∀ (rest : List (String × DataType)) (stream : BinaryStream),
      run codecs reader request rest.length client
          (encoding call header initPos values rest stream) =
        match Query.writeFields (DataType.fromPythonAsync codecs) values rest stream with
        | .ok stream => (client, encoding call header initPos values [] stream)
        | .error e => (client, done none (.error e))
  | [], stream => rfl
  | (name, cType) :: rest, stream => by
    rw [List.length_cons, Nat.add_comm, run_add, run_succ, run_zero]
    simp only [step, Query.writeFields]
    cases values.getitem name with
    | error e => simp
    | ok v =>
      simp only [ok_bind]
      cases cType.fromPythonAsync codecs stream v with
      | error e => simp
      | ok stream' => exact run_encoding call header initPos values client rest stream'

theorem run_requesting (client : Client) (call : Call) (sent : List UInt8) :
    run codecs reader request 3 client (requesting call sent) =
      match request sent with
      | .ok data =>
        let o := Query.finish reader.async call.spec client sent data
        (o.client, done o.sent o.result)
      | .error e => (client, done (some sent) (.error e)) := by
  cases hr : request sent with
  | error e => simp [run_succ, step, hr]
  | ok data =>
    cases hp : reader.parseAsync call.spec data with
    | error e => simp [run_succ, step, hr, hp, Query.finish, Reader.async]
    | ok response =>
      by_cases h0 : response.statusCode = 0
      · cases ht : reader.toPythonAsync call.spec response <;>
          simp [run_succ, step, hr, hp, ht, h0, Query.finish, Reader.async, Reader.value,
            Reader.valueAsync, Except.map, APIResult.ofResponse]
      · simp [run_succ, step, hr, hp, h0, Query.finish, Reader.async, APIResult.ofResponse]

end Task

namespace Query

/-- `await self.perform_async(conn, query_params, response_config, **kwargs)` with no other task
interleaved: the task resumed `|following| + 5` times, and its outcome if it has returned. -/
def performAsync (codecs : Codecs) (reader : Reader) (q : Query) (conn : Connection)
    (request : List UInt8 → Except PyError (List UInt8)) (queryParams : PyObj)
    (responseConfig : List (String × DataType)) (kwargs : List (String × PyObj))
    (rnd : RandLong) : Option Outcome :=
  match Task.run codecs reader request (q.following.length + 5) conn.client
      (.start ⟨q, conn.protocolContext, queryParams, responseConfig, kwargs⟩ rnd) with
  | (client, .done sent result) => some ⟨sent, client, result⟩
  | _ => none

theorem performAsync_eq (codecs : Codecs) (reader : Reader) (q : Query) (conn : Connection)
    (request : List UInt8 → Except PyError (List UInt8)) (queryParams : PyObj)
    (responseConfig : List (String × DataType)) (kwargs : List (String × PyObj))
    (rnd : RandLong) :
    q.performAsync codecs reader conn request queryParams responseConfig kwargs rnd =
      some (q.perform codecs.async reader.async conn request queryParams responseConfig kwargs
        rnd) := by
  unfold performAsync perform fromPython
  rw [show q.following.length + 5 = 1 + (q.following.length + (1 + 3)) by omega, Task.run_add,
    Task.run_start, Task.run_add, Task.run_encoding, encode_stream, fromPython_async]
  cases Query.writeFields (DataType.fromPythonAsync codecs)
      (if queryParams.truthy then queryParams else .none) q.following
      (q.buildHeader BinaryStream.empty rnd).1 with
  | error e => rfl
  | ok stream =>
    rw [Task.run_add, Task.run_encoding_nil, Task.run_requesting]
    simp only [Except.map, BinaryStream.getvalue_eq, BinaryStream.empty_pos]
    cases request _ <;> rfl

end Query

/-- `query_perform(query_struct, conn, post_process_fun, **kwargs)` on an `AioConnection`: the
coroutine `_async_internal()`, awaited on its own. -/
def queryPerformAsync (codecs : Codecs) (reader : Reader) (q : Query) (conn : Connection)
    (request : List UInt8 → Except PyError (List UInt8)) (queryParams : PyObj)
    (responseConfig : List (String × DataType)) (kwargs : List (String × PyObj)) (rnd : RandLong)
    (postProcessFun : Option (APIResult → Except PyError APIResult)) : Option Outcome :=
  (q.performAsync codecs reader conn request queryParams responseConfig kwargs rnd).map
    (postProcess postProcessFun)

theorem Codecs.async_eq {codecs : Codecs} (h : codecs.fromPythonAsync = codecs.fromPython) :
    codecs.async = codecs := by
  cases codecs; simp_all [Codecs.async]

theorem Reader.async_eq {reader : Reader} (hp : reader.parseAsync = reader.parse)
    (ht : reader.toPythonAsync = reader.toPython) : reader.async = reader := by
  cases reader; simp_all [Reader.async]

/-- The blocking and the cooperative path agree: when every codec's `from_python_async` does what
its `from_python` does and the reader's cooperative methods agree with the blocking ones, and the
same query id is drawn, `query_perform` awaited on an `AioConnection` returns, and sends the same
bytes, returns or raises the same thing and leaves the same client as on a blocking
connection. -/
theorem queryPerformAsync_eq_queryPerform {codecs : Codecs} {reader : Reader}
    (hc : codecs.fromPythonAsync = codecs.fromPython) (hp : reader.parseAsync = reader.parse)
    (ht : reader.toPythonAsync = reader.toPython) (q : Query) (conn : Connection)
    (request : List UInt8 → Except PyError (List UInt8)) (queryParams : PyObj)
    (responseConfig : List (String × DataType)) (kwargs : List (String × PyObj)) (rnd : RandLong)
    (postProcessFun : Option (APIResult → Except PyError APIResult)) :
    queryPerformAsync codecs reader q conn request queryParams responseConfig kwargs rnd
        postProcessFun =
      some (queryPerform codecs reader q conn request queryParams responseConfig kwargs rnd
        postProcessFun) := by
  rw [queryPerformAsync, Query.performAsync_eq, Codecs.async_eq hc, Reader.async_eq hp ht]
  rfl

theorem queryPerform_paths_agree :
    let codecs : Codecs := ⟨fun _ st _ => .ok (st.write [1]), fun _ st _ => .ok (st.write [1]),
      fun _ => [], fun _ => []⟩
    let reader : Reader := ⟨fun _ _ => .ok ⟨0, some 2, 1, 0, 0, none, []⟩,
      fun _ _ => .ok ⟨0, some 2, 1, 0, 0, none, []⟩, fun _ _ => .ok [], fun _ _ => .ok []⟩
    let q : Query := { opCode := 0, following := [("cursor", .long)] }
    let conn : Connection := ⟨⟨(0, 0)⟩, ⟨true⟩⟩
    let rnd : RandLong := ⟨0, by decide, by decide⟩
    let hook := some (onSuccess fun v => .ok (.list [v]))
    queryPerformAsync codecs reader q conn (fun _ => .ok []) (.dict [("cursor", .int 7)]) [] []
        rnd hook =
      some (queryPerform codecs reader q conn (fun _ => .ok []) (.dict [("cursor", .int 7)]) [] []
        rnd hook) :=
  queryPerformAsync_eq_queryPerform rfl rfl rfl _ _ _ _ _ _ _ _

/-! ## Requests the cluster refuses -/

section Refused

variable {codecs : Codecs} {q : Query} {params : List (String × PyObj)} {rnd : RandLong}
  {pre post : List (String × DataType)} {name : String} {info : CacheInfo}

theorem Query.fromPython_refused {s : BinaryStream}
    (hq : q.following = pre ++ (name, .cacheInfo) :: post)
    (hv : params.lookup name = some (.cacheInfo info))
    (hid : -2 ^ 31 ≤ info.cacheId ∧ info.cacheId < 2 ^ 31)
    (hr : CacheInfo.refused (some info) = true)
    (hpre : Query.writeFields (DataType.fromPython codecs) (.dict params) pre
      (q.buildHeader .empty rnd).1 = .ok s) :
    q.fromPython codecs (.stream .empty) (.dict params) rnd =
      .error (.notSupportedByClusterError CacheInfo.expiryPolicyUnsupported) := by
  have hget : (PyObj.dict params).getitem name = .ok (.cacheInfo info) := by simp [hv]
  refine Query.encode_stops hq hpre ?_
  rw [if_pos (PyObj.truthy_of_getitem hget), hget, ok_bind, DataType.fromPython,
    CacheInfo.fromPython_eq codecs.writePolicy s (some info) (fun c hc => by cases hc; exact hid),
    hr, if_pos rfl]

/-- A request whose `CacheInfo` value the cluster refuses: `CacheInfo.from_python` raises
`NotSupportedByClusterError` exactly for a record with a policy on a cluster that does not
support policies, and otherwise writes `cache_id`, the flags byte and the policy payload. A query
with such a value raises that error on both paths, before `conn.request` and with the client
untouched, when the fields before its `CacheInfo` field encode; when one of them fails, its own
error is raised instead, also before `conn.request` and on both paths. -/
theorem perform_refusedCacheInfo (reader : Reader) (conn : Connection)
    (request : List UInt8 → Except PyError (List UInt8))
    (responseConfig : List (String × DataType)) (kwargs : List (String × PyObj))
    (hq : q.following = pre ++ (name, .cacheInfo) :: post)
    (hv : params.lookup name = some (.cacheInfo info))
    (hid : -2 ^ 31 ≤ info.cacheId ∧ info.cacheId < 2 ^ 31)
    (hr : CacheInfo.refused (some info) = true) :
    (∀ (stream : BinaryStream) (i : Option CacheInfo)
        (_ : ∀ c ∈ i, -2 ^ 31 ≤ c.cacheId ∧ c.cacheId < 2 ^ 31),
      CacheInfo.fromPython codecs.writePolicy stream
          (match i with | some c => .cacheInfo c | none => .none) =
        if CacheInfo.refused i then
          .error (.notSupportedByClusterError CacheInfo.expiryPolicyUnsupported)
        else .ok (stream.write (CacheInfo.block codecs.writePolicy i))) ∧
    (∀ s, Query.writeFields (DataType.fromPython codecs) (.dict params) pre
        (q.buildHeader .empty rnd).1 = .ok s →
      q.perform codecs reader conn request (.dict params) responseConfig kwargs rnd =
        ⟨none, conn.client,
          .error (.notSupportedByClusterError CacheInfo.expiryPolicyUnsupported)⟩) ∧
    (∀ s, Query.writeFields (DataType.fromPythonAsync codecs) (.dict params) pre
        (q.buildHeader .empty rnd).1 = .ok s →
      q.performAsync codecs reader conn request (.dict params) responseConfig kwargs rnd =
        some ⟨none, conn.client,
          .error (.notSupportedByClusterError CacheInfo.expiryPolicyUnsupported)⟩) ∧
    (∀ e, Query.writeFields (DataType.fromPython codecs) (.dict params) pre
        (q.buildHeader .empty rnd).1 = .error e →
      q.perform codecs reader conn request (.dict params) responseConfig kwargs rnd =
        ⟨none, conn.client, .error e⟩) ∧
    (∀ e, Query.writeFields (DataType.fromPythonAsync codecs) (.dict params) pre
        (q.buildHeader .empty rnd).1 = .error e →
      q.performAsync codecs reader conn request (.dict params) responseConfig kwargs rnd =
        some ⟨none, conn.client, .error e⟩) := by
  have hget : (PyObj.dict params).getitem name = .ok (.cacheInfo info) := by simp [hv]
  have ht := PyObj.truthy_of_getitem hget
  refine ⟨CacheInfo.fromPython_eq codecs.writePolicy, fun s hpre => ?_, fun s hpre => ?_,
    fun e he => ?_, fun e he => ?_⟩
  · exact Query.perform_encode_error (Query.fromPython_refused hq hv hid hr hpre)
  · rw [Query.performAsync_eq, Query.perform_encode_error (Query.fromPython_refused (s := s) hq hv
      hid hr (by rwa [fromPython_async]))]
  · exact Query.perform_encode_error (Query.encode_prefix_error hq ht he)
  · rw [Query.performAsync_eq, Query.perform_encode_error
      (Query.encode_prefix_error hq ht (by rwa [fromPython_async]))]

theorem refusedCacheInfo_raises :
    let codecs : Codecs := ⟨fun _ st _ => .ok st, fun _ st _ => .ok st, fun _ => [], fun _ => []⟩
    let reader : Reader := ⟨fun _ _ => .ok ⟨0, none, 0, 0, 0, none, []⟩,
      fun _ _ => .ok ⟨0, none, 0, 0, 0, none, []⟩, fun _ _ => .ok [], fun _ _ => .ok []⟩
    let info : CacheInfo := ⟨1, some ⟨0, 0, 0⟩, ⟨false⟩⟩
    let q : Query := { opCode := 0, following := [("cache_info", .cacheInfo)] }
    let q' : Query := { opCode := 0, following := [("x", .int), ("cache_info", .cacheInfo)] }
    let conn : Connection := ⟨⟨(0, 0)⟩, ⟨false⟩⟩
    let rnd : RandLong := ⟨0, by decide, by decide⟩
    q.perform codecs reader conn (fun _ => .ok []) (.dict [("cache_info", .cacheInfo info)]) [] []
        rnd = ⟨none, conn.client,
          .error (.notSupportedByClusterError CacheInfo.expiryPolicyUnsupported)⟩ ∧
      q.performAsync codecs reader conn (fun _ => .ok []) (.dict [("cache_info", .cacheInfo info)])
          [] [] rnd = some ⟨none, conn.client,
            .error (.notSupportedByClusterError CacheInfo.expiryPolicyUnsupported)⟩ ∧
      q'.perform codecs reader conn (fun _ => .ok []) (.dict [("cache_info", .cacheInfo info)]) []
        [] rnd = ⟨none, conn.client, .error (.keyError "x")⟩ := by
  intro codecs reader info q q' conn rnd
  have h := @perform_refusedCacheInfo codecs q [("cache_info", .cacheInfo info)] rnd [] []
    "cache_info" info reader conn (fun _ => .ok []) [] [] rfl rfl (by norm_num) rfl
  have h' := @perform_refusedCacheInfo codecs q' [("cache_info", .cacheInfo info)] rnd
    [("x", .int)] [] "cache_info" info reader conn (fun _ => .ok []) [] [] rfl rfl (by norm_num) rfl
  exact ⟨h.2.1 _ rfl, h.2.2.1 _ rfl, h'.2.2.2.1 _ rfl⟩

/-- Fields are written in order, so a field the parameters lack, declared before a refused
`CacheInfo` field, raises first: `KeyError`, not `NotSupportedByClusterError`. -/
theorem refusedCacheInfo_after_missingField :
    let codecs : Codecs := ⟨fun _ st _ => .ok st, fun _ st _ => .ok st, fun _ => [], fun _ => []⟩
    let reader : Reader := ⟨fun _ _ => .ok ⟨0, none, 0, 0, 0, none, []⟩,
      fun _ _ => .ok ⟨0, none, 0, 0, 0, none, []⟩, fun _ _ => .ok [], fun _ _ => .ok []⟩
    let info : CacheInfo := ⟨1, some ⟨0, 0, 0⟩, ⟨false⟩⟩
    let q : Query := { opCode := 0, following := [("x", .int), ("cache_info", .cacheInfo)] }
    let rnd : RandLong := ⟨0, by decide, by decide⟩
    CacheInfo.refused (some info) = true ∧
      (q.perform codecs reader ⟨⟨(0, 0)⟩, ⟨false⟩⟩ (fun _ => .ok [])
        (.dict [("cache_info", .cacheInfo info)]) [] [] rnd).result = .error (.keyError "x") :=
  ⟨rfl, rfl⟩

theorem Query.fromPython_cacheIdOverflow {s : BinaryStream}
    (hq : q.following = pre ++ (name, .cacheInfo) :: post)
    (hv : params.lookup name = some (.cacheInfo info))
    (hid : ¬ (-2 ^ 31 ≤ info.cacheId ∧ info.cacheId < 2 ^ 31))
    (hpre : Query.writeFields (DataType.fromPython codecs) (.dict params) pre
      (q.buildHeader .empty rnd).1 = .ok s) :
    q.fromPython codecs (.stream .empty) (.dict params) rnd =
      .error (.overflowError "int too big to convert") := by
  have hget : (PyObj.dict params).getitem name = .ok (.cacheInfo info) := by simp [hv]
  refine Query.encode_stops hq hpre ?_
  rw [if_pos (PyObj.truthy_of_getitem hget), hget, ok_bind, DataType.fromPython,
    CacheInfo.fromPython_overflow codecs.writePolicy s info hid]

/-- A request whose `CacheInfo` value has a `cache_id` outside int32 raises `OverflowError` on
both paths, before `conn.request`, with the client untouched, once the fields before it are
written; `cache_id.to_bytes` runs before the expiry policy is looked at, so this holds also for a
record the cluster would refuse. -/
theorem perform_cacheIdOverflow (reader : Reader) (conn : Connection)
    (request : List UInt8 → Except PyError (List UInt8))
    (responseConfig : List (String × DataType)) (kwargs : List (String × PyObj))
    {s s' : BinaryStream}
    (hq : q.following = pre ++ (name, .cacheInfo) :: post)
    (hv : params.lookup name = some (.cacheInfo info))
    (hid : ¬ (-2 ^ 31 ≤ info.cacheId ∧ info.cacheId < 2 ^ 31))
    (hpre : Query.writeFields (DataType.fromPython codecs) (.dict params) pre
      (q.buildHeader .empty rnd).1 = .ok s)
    (hpre' : Query.writeFields (DataType.fromPythonAsync codecs) (.dict params) pre
      (q.buildHeader .empty rnd).1 = .ok s') :
    q.perform codecs reader conn request (.dict params) responseConfig kwargs rnd =
        ⟨none, conn.client, .error (.overflowError "int too big to convert")⟩ ∧
      q.performAsync codecs reader conn request (.dict params) responseConfig kwargs rnd =
        some ⟨none, conn.client, .error (.overflowError "int too big to convert")⟩ := by
  refine ⟨Query.perform_encode_error (Query.fromPython_cacheIdOverflow hq hv hid hpre), ?_⟩
  rw [Query.performAsync_eq, Query.perform_encode_error (Query.fromPython_cacheIdOverflow
    (s := s') hq hv hid (by rwa [fromPython_async]))]

theorem refusedCacheInfo_overflowFirst :
    let codecs : Codecs := ⟨fun _ st _ => .ok st, fun _ st _ => .ok st, fun _ => [], fun _ => []⟩
    let reader : Reader := ⟨fun _ _ => .ok ⟨0, none, 0, 0, 0, none, []⟩,
      fun _ _ => .ok ⟨0, none, 0, 0, 0, none, []⟩, fun _ _ => .ok [], fun _ _ => .ok []⟩
    let info : CacheInfo := ⟨2 ^ 31, some ⟨0, 0, 0⟩, ⟨false⟩⟩
    let q : Query := { opCode := 0, following := [("cache_info", .cacheInfo)] }
    let conn : Connection := ⟨⟨(0, 0)⟩, ⟨false⟩⟩
    let rnd : RandLong := ⟨0, by decide, by decide⟩
    CacheInfo.refused (some info) = true ∧
      q.perform codecs reader conn (fun _ => .ok []) (.dict [("cache_info", .cacheInfo info)]) [] []
          rnd = ⟨none, conn.client, .error (.overflowError "int too big to convert")⟩ ∧
      q.performAsync codecs reader conn (fun _ => .ok []) (.dict [("cache_info", .cacheInfo info)])
          [] [] rnd =
        some ⟨none, conn.client, .error (.overflowError "int too big to convert")⟩ := by
  intro codecs reader info q conn rnd
  exact ⟨rfl, @perform_cacheIdOverflow codecs q [("cache_info", .cacheInfo info)] rnd [] []
    "cache_info" info reader conn (fun _ => .ok []) [] [] (q.buildHeader .empty rnd).1
    (q.buildHeader .empty rnd).1 rfl rfl (by norm_num) rfl rfl⟩

end Refused

section MissingField

variable {codecs : Codecs} {q : Query} {rnd : RandLong} {pre post : List (String × DataType)}
  {name : String}

/-- A declared field the parameters lack stops the request on both paths before
`conn.request`, with the client untouched, once the fields before it are written: a non-empty
dict without it raises `KeyError`, and an empty dict or `None`, which `values if values else
None` makes `None`, raises `TypeError`. -/
theorem perform_missingField (reader : Reader) (conn : Connection)
    (request : List UInt8 → Except PyError (List UInt8))
    (responseConfig : List (String × DataType)) (kwargs : List (String × PyObj))
    {values : PyObj} {t : DataType} {s s' : BinaryStream}
    (hq : q.following = pre ++ (name, t) :: post)
    (hv : values = .none ∨ ∃ es, values = .dict es ∧ es.lookup name = none)
    (hpre : Query.writeFields (DataType.fromPython codecs) values pre
      (q.buildHeader .empty rnd).1 = .ok s)
    (hpre' : Query.writeFields (DataType.fromPythonAsync codecs) values pre
      (q.buildHeader .empty rnd).1 = .ok s') :
    let e := if values.truthy then PyError.keyError name
      else .typeError "\x27NoneType\x27 object is not subscriptable"
    q.perform codecs reader conn request values responseConfig kwargs rnd =
        ⟨none, conn.client, .error e⟩ ∧
      q.performAsync codecs reader conn request values responseConfig kwargs rnd =
        some ⟨none, conn.client, .error e⟩ := by
  intro e
  have hg := Query.getitem_missing hv
  refine ⟨Query.perform_encode_error (Query.encode_stops hq hpre (by rw [hg]; rfl)), ?_⟩
  rw [Query.performAsync_eq, Query.perform_encode_error
    (Query.encode_stops hq (by rwa [fromPython_async]) (by rw [hg]; rfl))]

theorem emptyParams_typeError :
    let codecs : Codecs := ⟨fun _ st _ => .ok st, fun _ st _ => .ok st, fun _ => [], fun _ => []⟩
    let reader : Reader := ⟨fun _ _ => .ok ⟨0, none, 0, 0, 0, none, []⟩,
      fun _ _ => .ok ⟨0, none, 0, 0, 0, none, []⟩, fun _ _ => .ok [], fun _ _ => .ok []⟩
    let q : Query := { opCode := 0, following := [("cursor", .long)] }
    let conn : Connection := ⟨⟨(0, 0)⟩, ⟨true⟩⟩
    let rnd : RandLong := ⟨0, by decide, by decide⟩
    q.perform codecs reader conn (fun _ => .ok []) (.dict []) [] [] rnd =
        ⟨none, conn.client, .error (.typeError "\x27NoneType\x27 object is not subscriptable")⟩ ∧
      q.performAsync codecs reader conn (fun _ => .ok []) (.dict []) [] [] rnd =
        some ⟨none, conn.client,
          .error (.typeError "\x27NoneType\x27 object is not subscriptable")⟩ := by
  intro codecs reader q conn rnd
  exact @perform_missingField codecs q rnd [] [] "cursor" reader conn (fun _ => .ok []) [] []
    (.dict []) .long (q.buildHeader .empty rnd).1 (q.buildHeader .empty rnd).1 rfl
    (.inr ⟨[], rfl, rfl⟩) rfl rfl

end MissingField

end PyIgnite
