import PyIgnite.Queries.Query

/-!
# PyIgnite.Queries.Perform

`Query.perform` (`queries/query.py`): serialise the request into a fresh stream, exchange it over
the connection, parse the reply, let `__post_process_response` raise the client's affinity
version and build the `APIResult`, and on status 0 decode the value. `query_perform` applies the
caller's post-processing hook to the result.

The response reader (`pyignite.queries.response`) and `APIResult` (`pyignite.api.result`) are
not among the sources; `Reader`, `Response` and `APIResult.ofResponse` follow the spec (§4.3,
§3): a parsed header with flags, status, optional affinity version and error message, and a
result that carries the status and message but no value. A call is described by its `Outcome`:
the bytes handed to `conn.request`, if it got that far, the client afterwards, and what it
returned or raised.

* `postProcessResponse_client`: the response replaces the client's affinity version when it says
  the topology changed and its version compares greater.
* `perform_encode_error`: a request that fails to encode raises before `conn.request`, and the
  client is unchanged.
* `perform_decodes`: what a returned result holds (`Decodes`): the parsed status, no value
  unless the status is 0, and then the decoded value; `Decodes.postProcess_onSuccess` carries
  this through a post-processing hook.
* `perform_answers`: the result for every reply it parsed (`Answers`): with a non-zero status the
  result the reply builds, value `None`, with nothing decoded; with status 0 that result with the
  decoded value, or the exception decoding raised. `Answers.postProcess_onSuccess` carries this
  through a hook.
* `perform_sends_frame`: what reaches `conn.request` is the frame of the request.
* `perform_raised_moved_iff`: an exception leaves the client changed exactly when it is a
  decoding failure after `__post_process_response` moved the affinity version.
-/

namespace PyIgnite

/-- Modelled from the spec: `RHF_TOPOLOGY_CHANGED` (`pyignite.constants`), the response-flags
bit saying that the cluster topology changed. -/
def rhfTopologyChanged : Int := 2

def tupleGt (new old : Int × Int) : Bool :=
  new.1 > old.1 || (new.1 == old.1 && new.2 > old.2)

structure Client where
  affinityVersion : Int × Int
  deriving Repr, DecidableEq

structure Connection where
  client : Client
  protocolContext : ProtocolContext

/-- Modelled from the spec: a parsed response (`Response.parse` and `read_ctype`). `flags` is
absent from replies of protocols before flags existed; the affinity version is present when the
topology-changed bit is set; `payload` holds the declared fields for `to_python`. -/
structure Response where
  queryId : Int
  flags : Option Int
  affinityVersion : Int
  affinityMinor : Int
  statusCode : Int
  errorMessage : Option String
  payload : List UInt8

structure ResponseSpec where
  responseType : ResponseType
  protocolContext : ProtocolContext
  following : List (String × DataType)
  kwargs : List (String × PyObj)

/-- Modelled from the spec: the response reader, blocking and cooperative. `parse` reads a
response from the reply bytes, `toPython` decodes its declared fields into a mapping from field
name to value, in declaration order. -/
structure Reader where
  parse : ResponseSpec → List UInt8 → Except PyError Response
  parseAsync : ResponseSpec → List UInt8 → Except PyError Response
  toPython : ResponseSpec → Response → Except PyError (List (String × PyObj))
  toPythonAsync : ResponseSpec → Response → Except PyError (List (String × PyObj))

def Reader.value (reader : Reader) (spec : ResponseSpec) (response : Response) :
    Except PyError PyObj :=
  (reader.toPython spec response).map .dict

def Reader.valueAsync (reader : Reader) (spec : ResponseSpec) (response : Response) :
    Except PyError PyObj :=
  (reader.toPythonAsync spec response).map .dict

/-- Modelled from the spec: `APIResult`, a status, an optional error message, the value
(`None` until a caller sets it) and the echoed query id. -/
structure APIResult where
  status : Int
  message : Option String
  value : PyObj
  queryId : Int
  deriving Repr

/-- Modelled from the spec: `APIResult(response)`. -/
def APIResult.ofResponse (r : Response) : APIResult :=
  ⟨r.statusCode, r.errorMessage, .none, r.queryId⟩

@[simp] theorem APIResult.ofResponse_status (r : Response) :
    (APIResult.ofResponse r).status = r.statusCode := rfl

def ResultOf (decode : Response → Except PyError PyObj) (response : Response) (r : APIResult) :
    Prop :=
  r.status = response.statusCode ∧ r.message = response.errorMessage ∧
    r.queryId = response.queryId ∧ (r.status ≠ 0 → r.value = .none) ∧
    (r.status = 0 → decode response = .ok r.value)

/-- What a call did: the bytes it passed to `conn.request` if it got there, the client after it,
and the result it returned or the exception it raised. -/
structure Outcome where
  sent : Option (List UInt8)
  client : Client
  result : Except PyError APIResult

/-- Every result `o` returns answers what it sent: the connection replied, `reader` parsed the
reply with `spec` as `response`, and the result holds what `ResultOf` says with the decoded
value passed through the post-processing `g`. -/
def Decodes (reader : Reader) (spec : ResponseSpec)
    (request : List UInt8 → Except PyError (List UInt8)) (g : PyObj → Except PyError PyObj)
    (o : Outcome) : Prop :=
  ∀ r, o.result = .ok r → ∃ sent data response, o.sent = some sent ∧ request sent = .ok data ∧
    reader.parse spec data = .ok response ∧
    ResultOf (fun resp => reader.value spec resp >>= g) response r

/-- The result of `o` for every reply it parsed: with a non-zero status, the result the reply
builds, value `None`, with nothing decoded; with status 0, that result with the decoded value
passed through `g`, or the exception decoding or `g` raised. -/
def Answers (reader : Reader) (spec : ResponseSpec)
    (request : List UInt8 → Except PyError (List UInt8)) (g : PyObj → Except PyError PyObj)
    (o : Outcome) : Prop :=
  ∀ sent data response, o.sent = some sent → request sent = .ok data →
    reader.parse spec data = .ok response →
    o.result =
      if response.statusCode = 0 then
        (reader.value spec response >>= g).map fun v =>
          { APIResult.ofResponse response with value := v }
      else .ok (APIResult.ofResponse response)

namespace Response

def topologyChanged (r : Response) : Bool :=
  match r.flags with
  | some f => Int.land f rhfTopologyChanged != 0
  | none => false

def affinity (r : Response) : Int × Int := (r.affinityVersion, r.affinityMinor)

end Response

namespace Query

/-- `__post_process_response(conn, response_struct, response)`: raise the client's affinity
version if the response carries a greater one, and build the result. -/
def postProcessResponse (client : Client) (response : Response) : Client × APIResult :=
  let client :=
    if response.topologyChanged then
      let newAffinity := response.affinity
      let oldAffinity := client.affinityVersion
      if tupleGt newAffinity oldAffinity then { client with affinityVersion := newAffinity }
      else client
    else client
  (client, APIResult.ofResponse response)

def responseSpec (q : Query) (conn : Connection) (responseConfig : List (String × DataType))
    (kwargs : List (String × PyObj)) : ResponseSpec :=
  ⟨q.responseType, conn.protocolContext, responseConfig, kwargs⟩

/-- The part of `perform` after the reply arrived: parse, post-process, decode on status 0. -/
def finish (reader : Reader) (spec : ResponseSpec) (client : Client) (sent : List UInt8)
    (responseData : List UInt8) : Outcome :=
  match reader.parse spec responseData with
  | .error e => ⟨some sent, client, .error e⟩
  | .ok response =>
    let (client, result) := postProcessResponse client response
    if result.status = 0 then
      match reader.value spec response with
      | .error e => ⟨some sent, client, .error e⟩
      | .ok v => ⟨some sent, client, .ok { result with value := v }⟩
    else ⟨some sent, client, .ok result⟩

/-- `Query.perform(conn, query_params, response_config, **kwargs)`; `request` is the connection's
exchange `conn.request`, and `rnd` the value `randint` draws for the query id. -/
def perform (codecs : Codecs) (reader : Reader) (q : Query) (conn : Connection)
    (request : List UInt8 → Except PyError (List UInt8)) (queryParams : PyObj)
    (responseConfig : List (String × DataType)) (kwargs : List (String × PyObj))
    (rnd : RandLong) : Outcome :=
  match q.fromPython codecs (.stream .empty) queryParams rnd with
  | .error e => ⟨none, conn.client, .error e⟩
  | .ok stream =>
    match request stream.getvalue with
    | .error e => ⟨some stream.getvalue, conn.client, .error e⟩
    | .ok responseData =>
      finish reader (q.responseSpec conn responseConfig kwargs) conn.client stream.getvalue
        responseData

/-! ## What a call does -/

@[simp] theorem postProcessResponse_result (c : Client) (r : Response) :
    (postProcessResponse c r).2 = APIResult.ofResponse r := rfl

theorem postProcessResponse_client (c : Client) (r : Response) :
    (postProcessResponse c r).1 =
      if r.topologyChanged ∧ tupleGt r.affinity c.affinityVersion = true then
        { c with affinityVersion := r.affinity }
      else c := by
  unfold postProcessResponse
  by_cases h₁ : r.topologyChanged <;> by_cases h₂ : tupleGt r.affinity c.affinityVersion <;>
    simp [h₁, h₂]

theorem finish_result {reader : Reader} {spec : ResponseSpec} {client : Client}
    {sent data : List UInt8} {r : APIResult}
    (h : (finish reader spec client sent data).result = .ok r) :
    ∃ response, reader.parse spec data = .ok response ∧
      ResultOf (reader.value spec) response r := by
  unfold finish at h
  split at h
  · cases h
  · rename_i response hp
    refine ⟨response, hp, ?_⟩
    simp only [postProcessResponse_result] at h
    split at h
    · rename_i h0
      split at h
      · cases h
      · rename_i v hv
        cases h
        exact ⟨rfl, rfl, rfl, fun h' => absurd h0 h', fun _ => hv⟩
    · rename_i h0
      cases h
      exact ⟨rfl, rfl, rfl, fun _ => rfl, fun h' => absurd h' h0⟩

theorem finish_sent (reader : Reader) (spec : ResponseSpec) (client : Client)
    (sent data : List UInt8) : (finish reader spec client sent data).sent = some sent := by
  unfold finish
  split
  · rfl
  · simp only [postProcessResponse_result]
    split <;> (try split) <;> rfl

theorem finish_client (reader : Reader) (spec : ResponseSpec) (client : Client)
    (sent data : List UInt8) :
    (finish reader spec client sent data).client =
      match reader.parse spec data with
      | .ok response => (postProcessResponse client response).1
      | .error _ => client := by
  unfold finish
  cases reader.parse spec data with
  | error e => rfl
  | ok response =>
    simp only [postProcessResponse_result, APIResult.ofResponse]
    split <;> (try split) <;> rfl

theorem finish_raised_moved {reader : Reader} {spec : ResponseSpec} {client : Client}
    {sent data : List UInt8} {e : PyError}
    (he : (finish reader spec client sent data).result = .error e)
    (hc : (finish reader spec client sent data).client ≠ client) :
    ∃ response, reader.parse spec data = .ok response ∧ response.statusCode = 0 ∧
      reader.toPython spec response = .error e ∧
      (postProcessResponse client response).1 ≠ client := by
  rw [finish_client] at hc
  unfold finish at he
  cases hp : reader.parse spec data with
  | error => simp [hp] at hc
  | ok response =>
    simp only [hp, postProcessResponse_result, APIResult.ofResponse] at hc he
    split_ifs at he with h0
    · cases ht : reader.toPython spec response with
      | error e' =>
        simp only [Reader.value, ht, Except.map] at he
        cases he
        exact ⟨response, rfl, h0, ht, hc⟩
      | ok v => simp only [Reader.value, ht, Except.map] at he; cases he

theorem finish_answers {reader : Reader} {spec : ResponseSpec} {client : Client}
    {sent data : List UInt8} {response : Response} (hp : reader.parse spec data = .ok response) :
    (finish reader spec client sent data).result =
      if response.statusCode = 0 then
        (reader.value spec response >>= pure).map fun v =>
          { APIResult.ofResponse response with value := v }
      else .ok (APIResult.ofResponse response) := by
  simp only [finish, hp, postProcessResponse_result, APIResult.ofResponse_status]
  split_ifs
  · cases reader.value spec response <;> rfl
  · rfl

section Perform

variable {codecs : Codecs} {reader : Reader} {q : Query} {conn : Connection}
  {request : List UInt8 → Except PyError (List UInt8)} {queryParams : PyObj}
  {responseConfig : List (String × DataType)} {kwargs : List (String × PyObj)} {rnd : RandLong}

theorem perform_encode_error {e : PyError}
    (h : q.fromPython codecs (.stream .empty) queryParams rnd = .error e) :
    q.perform codecs reader conn request queryParams responseConfig kwargs rnd =
      ⟨none, conn.client, .error e⟩ := by
  simp [perform, h]

theorem perform_decodes :
    Decodes reader (q.responseSpec conn responseConfig kwargs) request pure
      (q.perform codecs reader conn request queryParams responseConfig kwargs rnd) := by
  intro r h
  unfold perform at h ⊢
  cases hs : q.fromPython codecs (.stream .empty) queryParams rnd with
  | error e => simp only [hs] at h; cases h
  | ok stream =>
    simp only [hs] at h ⊢
    cases hd : request stream.getvalue with
    | error e => simp only [hd] at h; cases h
    | ok data =>
      simp only [hd] at h ⊢
      obtain ⟨response, hp, hr⟩ := finish_result h
      exact ⟨_, data, response, finish_sent .., hd, hp, by simpa using hr⟩

def processed (codecs : Codecs) (reader : Reader) (q : Query) (conn : Connection)
    (request : List UInt8 → Except PyError (List UInt8)) (queryParams : PyObj)
    (responseConfig : List (String × DataType)) (kwargs : List (String × PyObj))
    (rnd : RandLong) : Option Response :=
  match q.fromPython codecs (.stream .empty) queryParams rnd with
  | .error _ => none
  | .ok stream =>
    match request stream.getvalue with
    | .error _ => none
    | .ok data => (reader.parse (q.responseSpec conn responseConfig kwargs) data).toOption

theorem perform_client :
    (q.perform codecs reader conn request queryParams responseConfig kwargs rnd).client =
      match q.processed codecs reader conn request queryParams responseConfig kwargs rnd with
      | some r => (postProcessResponse conn.client r).1
      | none => conn.client := by
  unfold perform processed
  split
  · rfl
  · split
    · rfl
    · rw [finish_client]
      cases reader.parse _ _ <;> rfl

theorem perform_sent {stream : BinaryStream}
    (h : q.fromPython codecs (.stream .empty) queryParams rnd = .ok stream) :
    (q.perform codecs reader conn request queryParams responseConfig kwargs rnd).sent =
      some stream.getvalue := by
  simp only [perform, h]
  split
  · rfl
  · exact finish_sent ..

theorem perform_answers :
    Answers reader (q.responseSpec conn responseConfig kwargs) request pure
      (q.perform codecs reader conn request queryParams responseConfig kwargs rnd) := by
  intro sent data response hs hd hp
  cases hf : q.fromPython codecs (.stream .empty) queryParams rnd with
  | error e => rw [perform_encode_error hf] at hs; cases hs
  | ok stream =>
    rw [perform_sent hf] at hs
    cases hs
    simp only [perform, hf, hd]
    exact finish_answers hp

/-- The bytes `perform` hands to `conn.request`, whatever the reply: the frame of the request on a
fresh stream, its header followed by the field encodings in declared order. -/
theorem perform_sends_frame (hop : -2 ^ 15 ≤ q.opCode ∧ q.opCode < 2 ^ 15)
    (enc : String × DataType → List UInt8)
    (h : ∀ f ∈ q.following, ∃ v, queryParams.getitem f.1 = .ok v ∧
      ∀ st, DataType.fromPython codecs f.2 st v = .ok (st.write (enc f)))
    (hlen : q.cls.sizeof + ((q.following.map enc).flatten).length < 2 ^ 31) :
    ∃ stream, Framed q .empty rnd (q.following.map enc).flatten (.ok stream) ∧
      (q.perform codecs reader conn request queryParams responseConfig kwargs rnd).sent =
        some stream.getvalue := by
  obtain ⟨hdr, hl, hr, hfields⟩ :=
    @encode_framed (DataType.fromPython codecs) q .empty rfl hop queryParams enc h hlen rnd
  exact ⟨_, ⟨hdr, hl, rfl, hfields⟩, perform_sent hr⟩

theorem cursorRequest_sent :
    let codecs : Codecs := ⟨fun _ st _ => .ok (st.write [7, 0, 0, 0, 0, 0, 0, 0]),
      fun _ st _ => .ok (st.write [7, 0, 0, 0, 0, 0, 0, 0]), fun _ => [], fun _ => []⟩
    let reader : Reader := ⟨fun _ _ => .error (.other "ValueError" ""),
      fun _ _ => .error (.other "ValueError" ""), fun _ _ => .ok [], fun _ _ => .ok []⟩
    let q : Query := { opCode := 0, following := [("cursor", .long)] }
    let conn : Connection := ⟨⟨(0, 0)⟩, ⟨true⟩⟩
    let rnd : RandLong := ⟨0, by decide, by decide⟩
    ∃ stream, Framed q .empty rnd [7, 0, 0, 0, 0, 0, 0, 0] (.ok stream) ∧
      (q.perform codecs reader conn (fun _ => .ok []) (.dict [("cursor", .int 7)]) [] [] rnd).sent =
        some stream.getvalue := by
  intro codecs reader q conn rnd
  have hq : ∀ f ∈ q.following, ∃ v, (PyObj.dict [("cursor", .int 7)]).getitem f.1 = .ok v ∧
      ∀ st, DataType.fromPython codecs f.2 st v = .ok (st.write [7, 0, 0, 0, 0, 0, 0, 0]) := by
    intro f hf
    obtain rfl : f = ("cursor", .long) := List.mem_singleton.mp hf
    exact ⟨_, rfl, fun _ => rfl⟩
  exact @perform_sends_frame codecs reader q conn (fun _ => .ok []) (.dict [("cursor", .int 7)])
    [] [] rnd (by norm_num) (fun _ => [7, 0, 0, 0, 0, 0, 0, 0]) hq (by decide)

theorem perform_decodeError_client {stream : BinaryStream} {data : List UInt8}
    {response : Response} {e : PyError}
    (hs : q.fromPython codecs (.stream .empty) queryParams rnd = .ok stream)
    (hd : request stream.getvalue = .ok data)
    (hp : reader.parse (q.responseSpec conn responseConfig kwargs) data = .ok response)
    (h0 : response.statusCode = 0)
    (he : reader.toPython (q.responseSpec conn responseConfig kwargs) response = .error e) :
    q.perform codecs reader conn request queryParams responseConfig kwargs rnd =
      ⟨some stream.getvalue, (postProcessResponse conn.client response).1, .error e⟩ := by
  simp [perform, finish, hs, hd, hp, h0, he, Reader.value, Except.map, APIResult.ofResponse,
    -BinaryStream.getvalue_eq]

/-- When `perform` raises, the client has changed exactly when the request went out, the reply
parsed with status 0 and moved the affinity version, and its fields failed to decode: every
other exception leaves the client as it was. -/
theorem perform_raised_moved_iff {e : PyError} :
    (q.perform codecs reader conn request queryParams responseConfig kwargs rnd).result = .error e ∧
      (q.perform codecs reader conn request queryParams responseConfig kwargs rnd).client ≠
        conn.client ↔
    ∃ stream data response, q.fromPython codecs (.stream .empty) queryParams rnd = .ok stream ∧
      request stream.getvalue = .ok data ∧
      reader.parse (q.responseSpec conn responseConfig kwargs) data = .ok response ∧
      response.statusCode = 0 ∧
      reader.toPython (q.responseSpec conn responseConfig kwargs) response = .error e ∧
      (postProcessResponse conn.client response).1 ≠ conn.client := by
  constructor
  · rintro ⟨he, hc⟩
    unfold perform at he hc
    cases hs : q.fromPython codecs (.stream .empty) queryParams rnd with
    | error => simp only [hs] at hc; exact absurd rfl hc
    | ok stream =>
      cases hd : request stream.getvalue with
      | error => simp only [hs, hd] at hc; exact absurd rfl hc
      | ok data =>
        simp only [hs, hd] at he hc
        obtain ⟨response, hp, h0, ht, hm⟩ := finish_raised_moved he hc
        exact ⟨stream, data, response, rfl, hd, hp, h0, ht, hm⟩
  · rintro ⟨stream, data, response, hs, hd, hp, h0, ht, hm⟩
    rw [perform_decodeError_client hs hd hp h0 ht]
    exact ⟨rfl, hm⟩

end Perform

end Query

/-- The shape of every post-processing of a result in the sources: on status 0 the value is
replaced by `g` of it, any other result is returned as it is. -/
def onSuccess (g : PyObj → Except PyError PyObj) (result : APIResult) : Except PyError APIResult :=
  if result.status = 0 then (g result.value).map fun v => { result with value := v }
  else .ok result

theorem resultOf_onSuccess {decode : Response → Except PyError PyObj}
    {g : PyObj → Except PyError PyObj}
    {response : Response} {r r' : APIResult} (hr : ResultOf decode response r)
    (h : onSuccess g r = .ok r') : ResultOf (fun resp => decode resp >>= g) response r' := by
  obtain ⟨hs, hm, hq, hnz, hz⟩ := hr
  unfold onSuccess at h
  split at h
  · rename_i h0
    cases hg : g r.value with
    | error e => rw [hg] at h; cases h
    | ok v =>
      rw [hg] at h
      cases h
      exact ⟨hs, hm, hq, fun h' => absurd h0 h', fun _ => by simp [hz h0, hg]⟩
  · rename_i h0
    cases h
    exact ⟨hs, hm, hq, hnz, fun h' => absurd h' h0⟩

def postProcess (postProcessFun : Option (APIResult → Except PyError APIResult)) (o : Outcome) :
    Outcome :=
  match postProcessFun with
  | some f => { o with result := o.result >>= f }
  | none => o

/-- `query_perform(query_struct, conn, post_process_fun, **kwargs)` on a blocking connection:
`_internal()`. -/
def queryPerform (codecs : Codecs) (reader : Reader) (q : Query) (conn : Connection)
    (request : List UInt8 → Except PyError (List UInt8)) (queryParams : PyObj)
    (responseConfig : List (String × DataType)) (kwargs : List (String × PyObj)) (rnd : RandLong)
    (postProcessFun : Option (APIResult → Except PyError APIResult)) : Outcome :=
  postProcess postProcessFun
    (q.perform codecs reader conn request queryParams responseConfig kwargs rnd)

theorem Decodes.postProcess_onSuccess {reader : Reader} {spec : ResponseSpec}
    {request : List UInt8 → Except PyError (List UInt8)} {g g' : PyObj → Except PyError PyObj}
    {o : Outcome} (h : Decodes reader spec request g o) :
    Decodes reader spec request (fun v => g v >>= g') (postProcess (some (onSuccess g')) o) := by
  intro r' hr'
  obtain ⟨r, hr, hg'⟩ := bind_eq_ok hr'
  obtain ⟨sent, data, response, hs, hd, hp, hres⟩ := h r hr
  exact ⟨sent, data, response, hs, hd, hp, by simpa [bind_assoc] using resultOf_onSuccess hres hg'⟩

theorem Answers.postProcess_onSuccess {reader : Reader} {spec : ResponseSpec}
    {request : List UInt8 → Except PyError (List UInt8)} {g g' : PyObj → Except PyError PyObj}
    {o : Outcome} (h : Answers reader spec request g o) :
    Answers reader spec request (fun v => g v >>= g') (postProcess (some (onSuccess g')) o) := by
  intro sent data response hs hd hp
  simp only [postProcess] at hs ⊢
  rw [h sent data response hs hd hp]
  split_ifs with h0
  · cases reader.value spec response with
    | error e => rfl
    | ok v =>
      rw [ok_bind, ok_bind]
      cases g v <;> simp [onSuccess, h0]
  · simp [onSuccess, h0]

end PyIgnite
