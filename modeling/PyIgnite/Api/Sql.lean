import PyIgnite.Queries.Async
import PyIgnite.Api.Binary

/-!
# PyIgnite.Api.Sql

Scan and SQL queries and their cursors (`api/sql.py`). Each operation hands `query_perform` (or,
for the deprecated `sql` and `sql_cursor_get_page`, `Query.perform` directly) a request, its
parameters, the response fields and a post-processing hook; the `_async` variants await the
same call on an `AioConnection`. `ApiCall` is what an operation hands over, and
`ApiCall.perform`, `ApiCall.performAsync` the two paths. `cache_id` (`pyignite.utils`) is not
among the sources and is a parameter.

* `ApiCall.perform_handles`, `ApiCall.bothHandle`: on both paths, every reply parsed with a
  non-zero status is returned as the result it builds, value `None`, with nothing decoded; with
  status 0 the value is the decoded value passed through the hook's reshaping.
* `apiResults_decoded`: this for every operation of the module and for `put_binary_type`.
* `sqlFieldsRows_page`, `sqlFieldsCursorGetPage_rows`: a status-0 page decoded over the declared
  fields `field_0 … field_{n-1}` is returned as lists of values in column order.
-/

namespace PyIgnite

namespace PyObj

/-- `dict(value)` on a mapping: a copy. The hooks only receive the mappings `to_python`
returns; `dict` of any other value raises here. -/
def toDict : PyObj → Except PyError PyObj
  | dict es => .ok (dict es)
  | o => .error (.typeError s!"\x27{o.typeName}\x27 object is not iterable")

def iter : PyObj → Except PyError (List PyObj)
  | list xs => .ok xs
  | dict es => .ok (es.map fun e => str e.1)
  | str s => .ok (s.toList.map fun c => str c.toString)
  | bytes bs => .ok (bs.map fun b => int b.toNat)
  | o => .error (.typeError s!"\x27{o.typeName}\x27 object is not iterable")

def values : PyObj → Except PyError (List PyObj)
  | dict es => .ok (es.map Prod.snd)
  | o => .error (.attributeError s!"\x27{o.typeName}\x27 object has no attribute \x27values\x27")

end PyObj

def defaultArgs : PyObj → PyObj
  | .none => .list []
  | a => a

def queryResultPostProcess : APIResult → Except PyError APIResult :=
  onSuccess PyObj.toDict

/-- The value `__post_process_sql_fields_cursor` builds: `{'data': [...], 'more':
value['more']}`, then `list(row_dict.values())` appended for each row of `value['data']`. -/
def sqlFieldsRows (value : PyObj) : Except PyError PyObj := do
  let more ← value.getitem "more"
  let rows ← (← value.getitem "data").iter
  let data ← rows.mapM PyObj.values
  pure (.dict [("data", .list (data.map .list)), ("more", more)])

def postProcessSqlFieldsCursor (result : APIResult) : Except PyError APIResult :=
  if result.status ≠ 0 then .ok result
  else (sqlFieldsRows result.value).map fun v => { result with value := v }

theorem postProcessSqlFieldsCursor_eq : postProcessSqlFieldsCursor = onSuccess sqlFieldsRows := by
  funext result
  by_cases h : result.status = 0 <;> simp [postProcessSqlFieldsCursor, onSuccess, h]

theorem mapM_values_zip (names : List String) :
    ∀ rows : List (List PyObj), (∀ vs ∈ rows, vs.length = names.length) →
      (rows.map fun vs => PyObj.dict (names.zip vs)).mapM PyObj.values = .ok rows
  | [], _ => rfl
  | vs :: rows, h => by
    have hvs : (names.zip vs).map Prod.snd = vs :=
      List.map_snd_zip _ _ (by rw [h vs (List.mem_cons_self _ _)])
    rw [List.map_cons, List.mapM_cons,
      mapM_values_zip names rows fun v hv => h v (List.mem_cons_of_mem _ hv)]
    simp [PyObj.values, hvs]

theorem sqlFieldsRows_page (names : List String) (rows : List (List PyObj)) (more : PyObj)
    (h : ∀ vs ∈ rows, vs.length = names.length) :
    sqlFieldsRows (.dict [("data", .list (rows.map fun vs => .dict (names.zip vs))),
      ("more", more)]) = .ok (.dict [("data", .list (rows.map .list)), ("more", more)]) := by
  have hmore : (PyObj.dict [("data", .list (rows.map fun vs => .dict (names.zip vs))),
      ("more", more)]).getitem "more" = .ok more := rfl
  have hdata : (PyObj.dict [("data", .list (rows.map fun vs => .dict (names.zip vs))),
      ("more", more)]).getitem "data" = .ok (.list (rows.map fun vs => .dict (names.zip vs))) :=
    rfl
  simp only [sqlFieldsRows, hmore, hdata, ok_bind, PyObj.iter, mapM_values_zip names rows h]
  rfl

/-- The row type `__sql_fields_cursor_get_page` declares:
`StructArray([(f'field_{i}', AnyDataObject) for i in range(field_count)])`. -/
def sqlFieldsStruct (fieldCount : Int) : List (String × DataType) :=
  (List.range fieldCount.toNat).map fun i => (s!"field_{i}", .anyDataObject)

/-! ## The calls the operations make -/

/-- What an operation hands to `query_perform`: the request, its parameters, the response fields,
the response class's keyword arguments and the post-processing hook. -/
structure ApiCall where
  query : Query
  queryParams : PyObj
  responseConfig : List (String × DataType)
  kwargs : List (String × PyObj)
  postProcessFun : Option (APIResult → Except PyError APIResult)

namespace ApiCall

variable (codecs : Codecs) (reader : Reader) (conn : Connection)
  (request : List UInt8 → Except PyError (List UInt8)) (rnd : RandLong)

/-- The call on a blocking connection. -/
def perform (c : ApiCall) : Outcome :=
  queryPerform codecs reader c.query conn request c.queryParams c.responseConfig c.kwargs rnd
    c.postProcessFun

/-- The call on an `AioConnection`, awaited. -/
def performAsync (c : ApiCall) : Option Outcome :=
  queryPerformAsync codecs reader c.query conn request c.queryParams c.responseConfig c.kwargs
    rnd c.postProcessFun

def spec (c : ApiCall) : ResponseSpec := c.query.responseSpec conn c.responseConfig c.kwargs

end ApiCall

section Calls

variable (opCodes : OpCodes) (cacheId : PyObj → Int)

def scanCall (cache : PyObj) (pageSize partitions : Int) (isLocal binary : Bool)
    (queryId : Option Int) : ApiCall where
  query :=
    { opCode := opCodes.queryScan
      following := [("hash_code", .int), ("flag", .byte), ("filter", .null), ("page_size", .int),
        ("partitions", .int), ("local", .bool)]
      queryId }
  queryParams := .dict [("hash_code", .int (cacheId cache)),
    ("flag", .int (if binary then 1 else 0)),
    ("filter", .none), ("page_size", .int pageSize), ("partitions", .int partitions),
    ("local", .int (if isLocal then 1 else 0))]
  responseConfig := [("cursor", .long), ("data", .map), ("more", .bool)]
  kwargs := []
  postProcessFun := some queryResultPostProcess

def scanCursorGetPageCall (cursor : Int) (queryId : Option Int) : ApiCall where
  query := { opCode := opCodes.queryScanCursorGetPage, following := [("cursor", .long)], queryId }
  queryParams := .dict [("cursor", .int cursor)]
  responseConfig := [("data", .map), ("more", .bool)]
  kwargs := []
  postProcessFun := some queryResultPostProcess

def sqlCall (cache : PyObj) (tableName queryStr : String) (pageSize : Int) (queryArgs : PyObj)
    (distributedJoins replicatedOnly isLocal : Bool) (timeout : Int) (binary : Bool)
    (queryId : Option Int) : ApiCall where
  query :=
    { opCode := opCodes.querySql
      following := [("hash_code", .int), ("flag", .byte), ("table_name", .string),
        ("query_str", .string), ("query_args", .anyDataArray), ("distributed_joins", .bool),
        ("local", .bool), ("replicated_only", .bool), ("page_size", .int), ("timeout", .long)]
      queryId }
  queryParams := .dict [("hash_code", .int (cacheId cache)),
    ("flag", .int (if binary then 1 else 0)),
    ("table_name", .str tableName), ("query_str", .str queryStr),
    ("query_args", defaultArgs queryArgs),
    ("distributed_joins", .int (if distributedJoins then 1 else 0)),
    ("local", .int (if isLocal then 1 else 0)),
    ("replicated_only", .int (if replicatedOnly then 1 else 0)), ("page_size", .int pageSize),
    ("timeout", .int timeout)]
  responseConfig := [("cursor", .long), ("data", .map), ("more", .bool)]
  kwargs := []
  postProcessFun := some (onSuccess PyObj.toDict)

def sqlCursorGetPageCall (cursor : Int) (queryId : Option Int) : ApiCall where
  query := { opCode := opCodes.querySqlCursorGetPage, following := [("cursor", .long)], queryId }
  queryParams := .dict [("cursor", .int cursor)]
  responseConfig := [("data", .map), ("more", .bool)]
  kwargs := []
  postProcessFun := some (onSuccess PyObj.toDict)

def sqlFieldsCall (cache : PyObj) (queryStr : String) (pageSize : Int) (queryArgs schema : PyObj)
    (statementType : Int)
    (distributedJoins isLocal replicatedOnly enforceJoinOrder collocated lazy
      includeFieldNames : Bool)
    (maxRows timeout : Int) (binary : Bool) (queryId : Option Int) : ApiCall where
  query :=
    { opCode := opCodes.querySqlFields
      following := [("hash_code", .int), ("flag", .byte), ("schema", .string), ("page_size", .int),
        ("max_rows", .int), ("query_str", .string), ("query_args", .anyDataArray),
        ("statement_type", .statementType), ("distributed_joins", .bool), ("local", .bool),
        ("replicated_only", .bool), ("enforce_join_order", .bool), ("collocated", .bool),
        ("lazy", .bool), ("timeout", .long), ("include_field_names", .bool)]
      queryId
      responseType := .sqlResponse }
  queryParams := .dict [("hash_code", .int (cacheId cache)),
    ("flag", .int (if binary then 1 else 0)),
    ("schema", schema), ("page_size", .int pageSize), ("max_rows", .int maxRows),
    ("query_str", .str queryStr), ("query_args", defaultArgs queryArgs),
    ("statement_type", .int statementType), ("distributed_joins", .bool distributedJoins),
    ("local", .bool isLocal), ("replicated_only", .bool replicatedOnly),
    ("enforce_join_order", .bool enforceJoinOrder), ("collocated", .bool collocated),
    ("lazy", .bool lazy), ("timeout", .int timeout),
    ("include_field_names", .bool includeFieldNames)]
  responseConfig := []
  kwargs := [("include_field_names", .bool includeFieldNames), ("has_cursor", .bool true)]
  postProcessFun := none

def sqlFieldsCursorGetPageCall (cursor fieldCount : Int) (queryId : Option Int) : ApiCall where
  query :=
    { opCode := opCodes.querySqlFieldsCursorGetPage, following := [("cursor", .long)], queryId }
  queryParams := .dict [("cursor", .int cursor)]
  responseConfig := [("data", .structArray (sqlFieldsStruct fieldCount)), ("more", .bool)]
  kwargs := []
  postProcessFun := some postProcessSqlFieldsCursor

def resourceCloseCall (cursor : Int) (queryId : Option Int) : ApiCall where
  query := { opCode := opCodes.resourceClose, following := [("cursor", .long)], queryId }
  queryParams := .dict [("cursor", .int cursor)]
  responseConfig := []
  kwargs := []
  postProcessFun := none

end Calls

/-! ## The operations -/

section Operations

variable (codecs : Codecs) (reader : Reader) (opCodes : OpCodes) (cacheId : PyObj → Int)
  (conn : Connection) (request : List UInt8 → Except PyError (List UInt8)) (rnd : RandLong)

def scan (cache : PyObj) (pageSize partitions : Int) (isLocal binary : Bool)
    (queryId : Option Int) : Outcome :=
  (scanCall opCodes cacheId cache pageSize partitions isLocal binary queryId).perform codecs reader
    conn request rnd

def scanAsync (cache : PyObj) (pageSize partitions : Int) (isLocal binary : Bool)
    (queryId : Option Int) : Option Outcome :=
  (scanCall opCodes cacheId cache pageSize partitions isLocal binary queryId).performAsync codecs
    reader conn request rnd

def scanCursorGetPage (cursor : Int) (queryId : Option Int) : Outcome :=
  (scanCursorGetPageCall opCodes cursor queryId).perform codecs reader conn request rnd

def scanCursorGetPageAsync (cursor : Int) (queryId : Option Int) : Option Outcome :=
  (scanCursorGetPageCall opCodes cursor queryId).performAsync codecs reader conn request rnd

def sql (cache : PyObj) (tableName queryStr : String) (pageSize : Int) (queryArgs : PyObj)
    (distributedJoins replicatedOnly isLocal : Bool) (timeout : Int) (binary : Bool)
    (queryId : Option Int) : Outcome :=
  (sqlCall opCodes cacheId cache tableName queryStr pageSize queryArgs distributedJoins
    replicatedOnly isLocal timeout binary queryId).perform codecs reader conn request rnd

def sqlCursorGetPage (cursor : Int) (queryId : Option Int) : Outcome :=
  (sqlCursorGetPageCall opCodes cursor queryId).perform codecs reader conn request rnd

def sqlFields (cache : PyObj) (queryStr : String) (pageSize : Int) (queryArgs schema : PyObj)
    (statementType : Int)
    (distributedJoins isLocal replicatedOnly enforceJoinOrder collocated lazy
      includeFieldNames : Bool)
    (maxRows timeout : Int) (binary : Bool) (queryId : Option Int) : Outcome :=
  (sqlFieldsCall opCodes cacheId cache queryStr pageSize queryArgs schema statementType
    distributedJoins isLocal replicatedOnly enforceJoinOrder collocated lazy includeFieldNames
    maxRows timeout binary queryId).perform codecs reader conn request rnd

def sqlFieldsAsync (cache : PyObj) (queryStr : String) (pageSize : Int) (queryArgs schema : PyObj)
    (statementType : Int)
    (distributedJoins isLocal replicatedOnly enforceJoinOrder collocated lazy
      includeFieldNames : Bool)
    (maxRows timeout : Int) (binary : Bool) (queryId : Option Int) : Option Outcome :=
  (sqlFieldsCall opCodes cacheId cache queryStr pageSize queryArgs schema statementType
    distributedJoins isLocal replicatedOnly enforceJoinOrder collocated lazy includeFieldNames
    maxRows timeout binary queryId).performAsync codecs reader conn request rnd

def sqlFieldsCursorGetPage (cursor fieldCount : Int) (queryId : Option Int) : Outcome :=
  (sqlFieldsCursorGetPageCall opCodes cursor fieldCount queryId).perform codecs reader conn
    request rnd

def sqlFieldsCursorGetPageAsync (cursor fieldCount : Int) (queryId : Option Int) :
    Option Outcome :=
  (sqlFieldsCursorGetPageCall opCodes cursor fieldCount queryId).performAsync codecs reader conn
    request rnd

def resourceClose (cursor : Int) (queryId : Option Int) : Outcome :=
  (resourceCloseCall opCodes cursor queryId).perform codecs reader conn request rnd

def resourceCloseAsync (cursor : Int) (queryId : Option Int) : Option Outcome :=
  (resourceCloseCall opCodes cursor queryId).performAsync codecs reader conn request rnd

end Operations

/-! ## What a returned result holds -/

def Reshapes (g : PyObj → Except PyError PyObj) :
    Option (APIResult → Except PyError APIResult) → Prop
  | none => g = pure
  | some f => f = onSuccess g

/-- A call handles its replies through `g`: every result it returns answers a reply it parsed
(`Decodes`), and every reply it parsed gets exactly the result `Answers` gives. -/
def Handles (reader : Reader) (spec : ResponseSpec)
    (request : List UInt8 → Except PyError (List UInt8)) (g : PyObj → Except PyError PyObj)
    (o : Outcome) : Prop :=
  Decodes reader spec request g o ∧ Answers reader spec request g o

def BothHandle (reader : Reader) (spec : ResponseSpec)
    (request : List UInt8 → Except PyError (List UInt8)) (g : PyObj → Except PyError PyObj)
    (sync : Outcome) (async : Option Outcome) : Prop :=
  Handles reader spec request g sync ∧ ∃ o, async = some o ∧ Handles reader.async spec request g o

namespace ApiCall

variable {codecs : Codecs} {reader : Reader} {conn : Connection}
  {request : List UInt8 → Except PyError (List UInt8)} {rnd : RandLong}

theorem perform_handles {c : ApiCall} {g : PyObj → Except PyError PyObj}
    (hc : Reshapes g c.postProcessFun) :
    Handles reader (c.spec conn) request g (c.perform codecs reader conn request rnd) := by
  rw [perform, queryPerform]
  obtain ⟨_, _, _, _, _ | f⟩ := c <;> cases hc
  · exact ⟨by simpa using Query.perform_decodes, by simpa using Query.perform_answers⟩
  · exact ⟨by simpa using Decodes.postProcess_onSuccess Query.perform_decodes,
      by simpa using Answers.postProcess_onSuccess Query.perform_answers⟩

theorem performAsync_eq (c : ApiCall) :
    c.performAsync codecs reader conn request rnd =
      some (c.perform codecs.async reader.async conn request rnd) := by
  simp [performAsync, perform, queryPerformAsync, queryPerform, Query.performAsync_eq]

theorem bothHandle {c : ApiCall} {g : PyObj → Except PyError PyObj}
    (hc : Reshapes g c.postProcessFun) :
    BothHandle reader (c.spec conn) request g (c.perform codecs reader conn request rnd)
      (c.performAsync codecs reader conn request rnd) :=
  ⟨perform_handles hc, _, performAsync_eq c, perform_handles hc⟩

end ApiCall

/-- For every operation on `Query.perform` in `api/sql.py`, on both paths, and for
`put_binary_type`, and for every reply it parsed: with a non-zero status it returns the result
the reply builds, value `None`, whatever decoding the payload would do and with the hook leaving
it as it is; with status 0 the value is the operation's post-processing of the decoded value
(`dict(...)` for key-value pages, the list-of-lists reshaping for fields pages, the decoded value
itself for `sql_fields` and `resource_close`, `{'type_id', 'schema_id'}` for
`put_binary_type`), or the exception decoding or the hook raised. Every result it returns answers
such a reply. -/
theorem apiResults_decoded (codecs : Codecs) (reader : Reader) (opCodes : OpCodes)
    (cacheId entityId : PyObj → Int) (conn : Connection)
    (request : List UInt8 → Except PyError (List UInt8)) (rnd : RandLong) :
    (∀ cache pageSize partitions isLocal binary queryId,
      BothHandle reader
        ((scanCall opCodes cacheId cache pageSize partitions isLocal binary queryId).spec conn)
        request PyObj.toDict
        (scan codecs reader opCodes cacheId conn request rnd cache pageSize partitions isLocal
          binary queryId)
        (scanAsync codecs reader opCodes cacheId conn request rnd cache pageSize partitions isLocal
          binary queryId)) ∧
    (∀ cursor queryId,
      BothHandle reader ((scanCursorGetPageCall opCodes cursor queryId).spec conn) request
        PyObj.toDict (scanCursorGetPage codecs reader opCodes conn request rnd cursor queryId)
        (scanCursorGetPageAsync codecs reader opCodes conn request rnd cursor queryId)) ∧
    (∀ cache tableName queryStr pageSize queryArgs distributedJoins replicatedOnly isLocal timeout
        binary queryId,
      Handles reader ((sqlCall opCodes cacheId cache tableName queryStr pageSize queryArgs
          distributedJoins replicatedOnly isLocal timeout binary queryId).spec conn) request
        PyObj.toDict
        (sql codecs reader opCodes cacheId conn request rnd cache tableName queryStr pageSize
          queryArgs distributedJoins replicatedOnly isLocal timeout binary queryId)) ∧
    (∀ cursor queryId,
      Handles reader ((sqlCursorGetPageCall opCodes cursor queryId).spec conn) request PyObj.toDict
        (sqlCursorGetPage codecs reader opCodes conn request rnd cursor queryId)) ∧
    (∀ cache queryStr pageSize queryArgs schema statementType distributedJoins isLocal
        replicatedOnly enforceJoinOrder collocated lazy includeFieldNames maxRows timeout binary
        queryId,
      BothHandle reader ((sqlFieldsCall opCodes cacheId cache queryStr pageSize queryArgs schema
          statementType distributedJoins isLocal replicatedOnly enforceJoinOrder collocated lazy
          includeFieldNames maxRows timeout binary queryId).spec conn) request pure
        (sqlFields codecs reader opCodes cacheId conn request rnd cache queryStr pageSize queryArgs
          schema statementType distributedJoins isLocal replicatedOnly enforceJoinOrder
          collocated lazy includeFieldNames maxRows timeout binary queryId)
        (sqlFieldsAsync codecs reader opCodes cacheId conn request rnd cache queryStr pageSize
          queryArgs schema statementType distributedJoins isLocal replicatedOnly enforceJoinOrder
          collocated lazy includeFieldNames maxRows timeout binary queryId)) ∧
    (∀ cursor fieldCount queryId,
      BothHandle reader ((sqlFieldsCursorGetPageCall opCodes cursor fieldCount queryId).spec conn)
        request sqlFieldsRows
        (sqlFieldsCursorGetPage codecs reader opCodes conn request rnd cursor fieldCount queryId)
        (sqlFieldsCursorGetPageAsync codecs reader opCodes conn request rnd cursor fieldCount
          queryId)) ∧
    (∀ cursor queryId,
      BothHandle reader ((resourceCloseCall opCodes cursor queryId).spec conn) request pure
        (resourceClose codecs reader opCodes conn request rnd cursor queryId)
        (resourceCloseAsync codecs reader opCodes conn request rnd cursor queryId)) ∧
    (∀ typeName affinityKeyField isEnum schema queryId data schemaId,
      putBinaryTypeData codecs.typeCode entityId typeName affinityKeyField isEnum
          (schema.getD []) = .ok (data, schemaId) →
        Handles reader ((putBinaryTypeQuery opCodes isEnum queryId).responseSpec conn [] []) request
          (fun _ => .ok (.dict [("type_id", .int (entityId (.str typeName))),
            ("schema_id", schemaId)]))
          (putBinaryType codecs reader opCodes entityId conn request typeName affinityKeyField
            isEnum schema queryId rnd)) := by
  refine ⟨?_, ?_, ?_, ?_, ?_, ?_, ?_, ?_⟩ <;> intros
  · exact ApiCall.bothHandle rfl
  · exact ApiCall.bothHandle rfl
  · exact ApiCall.perform_handles rfl
  · exact ApiCall.perform_handles rfl
  · exact ApiCall.bothHandle rfl
  · exact ApiCall.bothHandle postProcessSqlFieldsCursor_eq
  · exact ApiCall.bothHandle rfl
  · exact ⟨putBinaryType_decodes ‹_›, putBinaryType_answers ‹_›⟩

/-! ## Rows of a fields page -/

/-- For every reply `o` parsed as `response` with status 0 whose page decoded, over the columns
`names` in declaration order, to `rows` with the continuation flag `more`, `o` returns the
reply's result with the value `{'data': rows as lists, 'more': more}`. -/
def ReturnsRows (reader : Reader) (spec : ResponseSpec)
    (request : List UInt8 → Except PyError (List UInt8)) (names : List String) (o : Outcome) :
    Prop :=
  ∀ sent data response, o.sent = some sent → request sent = .ok data →
    reader.parse spec data = .ok response → response.statusCode = 0 →
    ∀ (rows : List (List PyObj)) (more : PyObj), (∀ vs ∈ rows, vs.length = names.length) →
      reader.toPython spec response =
        .ok [("data", .list (rows.map fun vs => .dict (names.zip vs))), ("more", more)] →
      o.result = .ok { APIResult.ofResponse response with
        value := .dict [("data", .list (rows.map .list)), ("more", more)] }

theorem Answers.returnsRows {reader : Reader} {spec : ResponseSpec}
    {request : List UInt8 → Except PyError (List UInt8)} {o : Outcome} (names : List String)
    (h : Answers reader spec request sqlFieldsRows o) :
    ReturnsRows reader spec request names o := by
  intro sent data response hs hd hp h0 rows more hl ht
  rw [h sent data response hs hd hp, if_pos h0]
  simp [Reader.value, ht, sqlFieldsRows_page names rows more hl]

@[simp] theorem sqlFieldsStruct_names (fieldCount : Int) :
    (sqlFieldsStruct fieldCount).map Prod.fst =
      (List.range fieldCount.toNat).map fun i => s!"field_{i}" := by
  simp [sqlFieldsStruct, Function.comp_def]

/-- `sql_fields_cursor_get_page` and its async variant, on a page answered with status 0 whose
data decoded over the fields that `__sql_fields_cursor_get_page` declares, `field_0 … field_{n-1}`
in numeric order: both return `{'data': D, 'more': m}`, row `k` of `D` the values of row `k` in
that order. -/
theorem sqlFieldsCursorGetPage_rows (codecs : Codecs) (reader : Reader) (opCodes : OpCodes)
    (conn : Connection) (request : List UInt8 → Except PyError (List UInt8)) (rnd : RandLong)
    (cursor fieldCount : Int) (queryId : Option Int) :
    let spec := (sqlFieldsCursorGetPageCall opCodes cursor fieldCount queryId).spec conn
    let names := (sqlFieldsStruct fieldCount).map Prod.fst
    names = (List.range fieldCount.toNat).map (fun i => s!"field_{i}") ∧
      ReturnsRows reader spec request names
        (sqlFieldsCursorGetPage codecs reader opCodes conn request rnd cursor fieldCount queryId) ∧
      ∃ o, sqlFieldsCursorGetPageAsync codecs reader opCodes conn request rnd cursor fieldCount
          queryId = some o ∧ ReturnsRows reader.async spec request names o := by
  intro spec names
  obtain ⟨⟨-, hsync⟩, o, ho, -, hasync⟩ :=
    (ApiCall.bothHandle postProcessSqlFieldsCursor_eq : BothHandle reader spec request
      sqlFieldsRows
      (sqlFieldsCursorGetPage codecs reader opCodes conn request rnd cursor fieldCount queryId)
      (sqlFieldsCursorGetPageAsync codecs reader opCodes conn request rnd cursor fieldCount
        queryId))
  exact ⟨sqlFieldsStruct_names fieldCount, hsync.returnsRows names, o, ho, hasync.returnsRows names⟩

end PyIgnite
