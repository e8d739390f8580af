import PyIgnite.Queries.Perform
import PyIgnite.Api.SchemaId

/-!
# PyIgnite.Api.Binary

Binary type registration (`api/binary.py`).

`put_binary_type` prepares the request parameters, a `data` dict; for a non-enum type the loop
that collects the binary fields also computes the schema id. It performs the request and, on
status 0, replaces the value by the type id and the schema id. `get_binary_type` builds its
request with `query_struct.from_python({'type_id': ...})`.

The operation codes (`pyignite.queries.op_codes`) and `entity_id` (`pyignite.utils`) are not
among the sources; the spec treats `entity_id` as an externally fixed hash. Both are parameters.
`data_type.type_code` exists only on the data types that declare it (`DataType.typeCodeError`):
not on the primitive classes such as `Int`, nor on struct instances.

* `binaryFieldsLoop_dataTypes`: over a schema of data types with a `type_code`, the loop collects
  one field dict per entry and folds `schemaIdStep` over the field ids.
* `putBinaryType_schema`: a non-enum registration performs the request declaring the schema
  block, built from exactly these parameters, with the schema id of the spec's 32-bit fold, and
  reports that id on status 0.
* `putBinaryType_schemaId_int32`: the schema id reported on status 0 is an int32, though the
  loop starts from `FNV1_OFFSET_BASIS`, which is not.
* `putBinaryType_noTypeCode`: a schema value without a `type_code` raises `AttributeError`
  before anything is sent.
* `getBinaryType_raises`: `get_binary_type` raises `AttributeError` for every argument, before
  anything is sent.
-/

namespace PyIgnite

structure OpCodes where
  getBinaryType : Int
  putBinaryType : Int
  queryScan : Int
  queryScanCursorGetPage : Int
  querySql : Int
  querySqlCursorGetPage : Int
  querySqlFields : Int
  querySqlFieldsCursorGetPage : Int
  resourceClose : Int

/-- How `data_type.type_code` fails on a data type that does not declare a `type_code`: the
`AttributeError` text, which names a class as `type object 'Int'` and an instance such as
`StructArray([...])` by its class. The primitive classes `Int`, `Long`, `Byte`, `Bool` (and
`StatementType`, a `Byte`), `AnyDataObject`, `CacheInfo`, `AnyDataArray()` and the struct
instances have none; `String`, `Null`, `Map` and the other type classes declare one. -/
def DataType.typeCodeError : DataType → Option String
  | .int => some (noClassTypeCode "Int")
  | .long => some (noClassTypeCode "Long")
  | .byte => some (noClassTypeCode "Byte")
  | .bool => some (noClassTypeCode "Bool")
  | .statementType => some (noClassTypeCode "StatementType")
  | .anyDataObject => some (noClassTypeCode "AnyDataObject")
  | .cacheInfo => some (noClassTypeCode "CacheInfo")
  | .anyDataArray => some (noObjectTypeCode "AnyDataArray")
  | .binaryFieldsStruct | .enumStruct | .schemaStruct | .structArray _ =>
    some (noObjectTypeCode "StructArray")
  | .string | .null | .map | .other _ => none
where
  noClassTypeCode (name : String) : String :=
    s!"type object \x27{name}\x27 has no attribute \x27type_code\x27"
  noObjectTypeCode (name : String) : String :=
    s!"\x27{name}\x27 object has no attribute \x27type_code\x27"

def PyObj.typeCodeError : PyObj → Option String
  | .dataType t => t.typeCodeError
  | o => some s!"\x27{o.typeName}\x27 object has no attribute \x27type_code\x27"

/-- `int.from_bytes(data_type.type_code, byteorder=PROTOCOL_BYTE_ORDER)`, little-endian. -/
def typeIdOf (typeCode : DataType → List UInt8) : PyObj → Except PyError Int
  | .dataType t =>
    match t.typeCodeError with
    | none => .ok (leValue (typeCode t))
    | some msg => .error (.attributeError msg)
  | o => .error (.attributeError s!"\x27{o.typeName}\x27 object has no attribute \x27type_code\x27")

theorem typeIdOf_error {typeCode : DataType → List UInt8} {o : PyObj} {msg : String}
    (h : o.typeCodeError = some msg) : typeIdOf typeCode o = .error (.attributeError msg) := by
  cases o <;> simp_all [typeIdOf, PyObj.typeCodeError]

theorem typeIdOf_dataType {typeCode : DataType → List UInt8} {t : DataType}
    (h : t.typeCodeError = none) :
    typeIdOf typeCode (.dataType t) = .ok (leValue (typeCode t)) := by
  simp [typeIdOf, h]

/-- The loop `for field_name, data_type in schema.items()` of `put_binary_type`: the entries of
`data['binary_fields']`, and `schema_id` after the last field. -/
def binaryFieldsLoop (typeCode : DataType → List UInt8) (entityId : PyObj → Int) :
    List (String × PyObj) → Int → Except PyError (List PyObj × Int)
  | [], schemaId => .ok ([], schemaId)
  | (fieldName, dataType) :: schema, schemaId => do
    let fieldId := entityId (.str fieldName)
    let typeId ← typeIdOf typeCode dataType
    let (fields, schemaId) ←
      binaryFieldsLoop typeCode entityId schema (schemaIdStep schemaId fieldId)
    pure (.dict [("field_name", .str fieldName), ("type_id", .int typeId),
      ("field_id", .int fieldId)] :: fields, schemaId)

/-- The request parameters `data` of `put_binary_type`, and its `schema_id` (`None` for an
enum). -/
def putBinaryTypeData (typeCode : DataType → List UInt8) (entityId : PyObj → Int)
    (typeName : String) (affinityKeyField : PyObj) (isEnum : Bool)
    (schema : List (String × PyObj)) : Except PyError (List (String × PyObj) × PyObj) := do
  let typeId := entityId (.str typeName)
  let schemaFields :=
    PyObj.list (schema.map fun x => .dict [("schema_field_id", .int (entityId (.str x.1)))])
  if isEnum then
    let enums := schema.map fun x => PyObj.dict [("literal", .str x.1), ("type_id", x.2)]
    pure ([("type_name", .str typeName), ("type_id", .int typeId),
      ("affinity_key_field", affinityKeyField), ("binary_fields", .list []),
      ("is_enum", .bool isEnum),
      ("schema", .list [.dict [("schema_id", .none), ("schema_fields", schemaFields)]]),
      ("enums", .list enums)], .none)
  else
    let (binaryFields, schemaId) ←
      binaryFieldsLoop typeCode entityId schema (if schema.isEmpty then 0 else fnv1OffsetBasis)
    pure ([("type_name", .str typeName), ("type_id", .int typeId),
      ("affinity_key_field", affinityKeyField), ("binary_fields", .list binaryFields),
      ("is_enum", .bool isEnum),
      ("schema", .list [.dict [("schema_id", .int schemaId), ("schema_fields", schemaFields)]])],
      .int schemaId)

def putBinaryTypeQuery (opCodes : OpCodes) (isEnum : Bool) (queryId : Option Int) : Query :=
  if isEnum then
    { opCode := opCodes.putBinaryType
      following := [("type_id", .int), ("type_name", .string), ("affinity_key_field", .string),
        ("binary_fields", .binaryFieldsStruct), ("is_enum", .bool), ("enums", .enumStruct),
        ("schema", .schemaStruct)]
      queryId }
  else
    { opCode := opCodes.putBinaryType
      following := [("type_id", .int), ("type_name", .string), ("affinity_key_field", .string),
        ("binary_fields", .binaryFieldsStruct), ("is_enum", .bool), ("schema", .schemaStruct)]
      queryId }

/-- `put_binary_type(connection, type_name, affinity_key_field, is_enum, schema, query_id)`:
`query_struct.perform(connection, query_params=data)`, then on status 0 the value
`{'type_id': type_id, 'schema_id': schema_id}`. -/
def putBinaryType (codecs : Codecs) (reader : Reader) (opCodes : OpCodes)
    (entityId : PyObj → Int) (conn : Connection)
    (request : List UInt8 → Except PyError (List UInt8)) (typeName : String)
    (affinityKeyField : PyObj) (isEnum : Bool) (schema : Option (List (String × PyObj)))
    (queryId : Option Int) (rnd : RandLong) : Outcome :=
  match putBinaryTypeData codecs.typeCode entityId typeName affinityKeyField isEnum
      (schema.getD []) with
  | .error e => ⟨none, conn.client, .error e⟩
  | .ok (data, schemaId) =>
    postProcess
      (some (onSuccess fun _ =>
        .ok (.dict [("type_id", .int (entityId (.str typeName))), ("schema_id", schemaId)])))
      ((putBinaryTypeQuery opCodes isEnum queryId).perform codecs reader conn request (.dict data)
        [] [] rnd)

/-- `get_binary_type(connection, binary_type, query_id)`. Its request is built by
`query_struct.from_python({'type_id': entity_id(binary_type)})`, which binds the dict to
`stream`; `from_python` returns `None`, which the same line unpacks into `_, send_buffer`.
`connection.send` and the parsing of the reply come after that line. -/
def getBinaryType (codecs : Codecs) (opCodes : OpCodes) (entityId : PyObj → Int)
    (conn : Connection) (binaryType : PyObj) (queryId : Option Int) (rnd : RandLong) : Outcome :=
  let queryStruct : Query :=
    { opCode := opCodes.getBinaryType, following := [("type_id", .int)], queryId }
  match queryStruct.fromPython codecs (.dict [("type_id", .int (entityId binaryType))]) .none
      rnd with
  | .error e => ⟨none, conn.client, .error e⟩
  | .ok _ => ⟨none, conn.client, .error (.typeError "cannot unpack non-iterable NoneType object")⟩

/-! ## Registration of a binary object type -/

theorem binaryFieldsLoop_dataTypes (typeCode : DataType → List UInt8) (entityId : PyObj → Int)
    (schema : List (String × DataType)) (h : ∀ f ∈ schema, f.2.typeCodeError = none)
    (schemaId : Int) :
    binaryFieldsLoop typeCode entityId (schema.map fun f => (f.1, .dataType f.2)) schemaId =
      .ok (schema.map fun f => .dict [("field_name", .str f.1),
          ("type_id", .int (leValue (typeCode f.2))), ("field_id", .int (entityId (.str f.1)))],
        (schema.map fun f => entityId (.str f.1)).foldl schemaIdStep schemaId) := by
  induction schema generalizing schemaId with
  | nil => rfl
  | cons f schema ih =>
    simp [binaryFieldsLoop, typeIdOf_dataType (h f (List.mem_cons_self _ _)),
      ih fun g hg => h g (List.mem_cons_of_mem _ hg)]

theorem binaryFieldsLoop_noTypeCode (typeCode : DataType → List UInt8) (entityId : PyObj → Int)
    (pre : List (String × DataType)) (hpre : ∀ f ∈ pre, f.2.typeCodeError = none) (name : String)
    (o : PyObj) (post : List (String × PyObj)) {msg : String} (ho : o.typeCodeError = some msg)
    (schemaId : Int) :
    binaryFieldsLoop typeCode entityId
        (pre.map (fun f => (f.1, .dataType f.2)) ++ (name, o) :: post) schemaId =
      .error (.attributeError msg) := by
  induction pre generalizing schemaId with
  | nil => simp [binaryFieldsLoop, typeIdOf_error ho]
  | cons f pre ih =>
    simp [binaryFieldsLoop, typeIdOf_dataType (hpre f (List.mem_cons_self _ _)),
      ih fun g hg => hpre g (List.mem_cons_of_mem _ hg)]

/-- A non-enum registration of a schema of data types that declare a `type_code`: it performs the
request that declares `type_id`, `type_name`, `affinity_key_field`, `binary_fields`, `is_enum`
and `schema`, with one binary field per entry and a schema block listing the field ids in the
schema's order under the schema id of the spec's 32-bit fold; on status 0 the result reports the
type id and that schema id. -/
theorem putBinaryType_schema (codecs : Codecs) (reader : Reader) (opCodes : OpCodes)
    (entityId : PyObj → Int) (conn : Connection)
    (request : List UInt8 → Except PyError (List UInt8)) (typeName : String)
    (affinityKeyField : PyObj) (schema : List (String × DataType))
    (h : ∀ f ∈ schema, f.2.typeCodeError = none) (queryId : Option Int) (rnd : RandLong) :
    let ids := schema.map fun f => entityId (.str f.1)
    putBinaryType codecs reader opCodes entityId conn request typeName affinityKeyField false
        (some (schema.map fun f => (f.1, .dataType f.2))) queryId rnd =
      postProcess
        (some (onSuccess fun _ => .ok (.dict [("type_id", .int (entityId (.str typeName))),
          ("schema_id", .int (fnv1aSchemaId ids))])))
        (({ opCode := opCodes.putBinaryType
            following := [("type_id", .int), ("type_name", .string),
              ("affinity_key_field", .string), ("binary_fields", .binaryFieldsStruct),
              ("is_enum", .bool), ("schema", .schemaStruct)]
            queryId } : Query).perform codecs reader conn request
          (.dict [("type_name", .str typeName), ("type_id", .int (entityId (.str typeName))),
            ("affinity_key_field", affinityKeyField),
            ("binary_fields", .list (schema.map fun f => .dict [("field_name", .str f.1),
              ("type_id", .int (leValue (codecs.typeCode f.2))),
              ("field_id", .int (entityId (.str f.1)))])),
            ("is_enum", .bool false),
            ("schema", .list [.dict [("schema_id", .int (fnv1aSchemaId ids)),
              ("schema_fields", .list (ids.map fun i => .dict [("schema_field_id", .int i)]))]])])
          [] [] rnd) := by
  intro ids
  have hinit : (if (schema.map fun f => (f.1, PyObj.dataType f.2)).isEmpty then 0
      else fnv1OffsetBasis) = if ids.isEmpty then 0 else fnv1OffsetBasis := by
    cases schema <;> rfl
  have hfields : (schema.map fun f => (f.1, PyObj.dataType f.2)).map
      (fun x => PyObj.dict [("schema_field_id", .int (entityId (.str x.1)))]) =
      ids.map fun i => .dict [("schema_field_id", .int i)] := by
    simp [ids]
  simp only [putBinaryType, putBinaryTypeData, Option.getD_some, binaryFieldsLoop_dataTypes _ _ _ h,
    hinit, hfields, Bool.false_eq_true, if_false, ok_bind, pure_except]
  rw [← schemaId_eq_fnv1aSchemaId]
  rfl

theorem pointRegistration_schema :
    let codecs : Codecs := ⟨fun _ st _ => .ok st, fun _ st _ => .ok st, fun _ => [9], fun _ => []⟩
    let reader : Reader := ⟨fun _ _ => .ok ⟨0, none, 0, 0, 0, none, []⟩,
      fun _ _ => .ok ⟨0, none, 0, 0, 0, none, []⟩, fun _ _ => .ok [], fun _ _ => .ok []⟩
    let conn : Connection := ⟨⟨(0, 0)⟩, ⟨true⟩⟩
    let rnd : RandLong := ⟨0, by decide, by decide⟩
    let field (name : String) : PyObj :=
      .dict [("field_name", .str name), ("type_id", .int 9), ("field_id", .int 7)]
    putBinaryType codecs reader ⟨0, 0, 0, 0, 0, 0, 0, 0, 0⟩ (fun _ => 7) conn (fun _ => .ok [])
        "Point" .none false (some [("x", .dataType .string), ("y", .dataType .string)]) none rnd =
      postProcess
        (some (onSuccess fun _ => .ok (.dict [("type_id", .int 7),
          ("schema_id", .int (fnv1aSchemaId [7, 7]))])))
        (({ opCode := 0
            following := [("type_id", .int), ("type_name", .string),
              ("affinity_key_field", .string), ("binary_fields", .binaryFieldsStruct),
              ("is_enum", .bool), ("schema", .schemaStruct)]
            queryId := none } : Query).perform codecs reader conn (fun _ => .ok [])
          (.dict [("type_name", .str "Point"), ("type_id", .int 7), ("affinity_key_field", .none),
            ("binary_fields", .list [field "x", field "y"]), ("is_enum", .bool false),
            ("schema", .list [.dict [("schema_id", .int (fnv1aSchemaId [7, 7])),
              ("schema_fields", .list [.dict [("schema_field_id", .int 7)],
                .dict [("schema_field_id", .int 7)]])]])])
          [] [] rnd) := by
  intro codecs reader conn rnd field
  exact putBinaryType_schema codecs reader ⟨0, 0, 0, 0, 0, 0, 0, 0, 0⟩ (fun _ => 7) conn
    (fun _ => .ok []) "Point" .none [("x", .string), ("y", .string)] (by decide) none rnd

theorem putBinaryType_decodes {codecs : Codecs} {reader : Reader} {opCodes : OpCodes}
    {entityId : PyObj → Int} {conn : Connection}
    {request : List UInt8 → Except PyError (List UInt8)} {typeName : String}
    {affinityKeyField : PyObj} {isEnum : Bool} {schema : Option (List (String × PyObj))}
    {queryId : Option Int} {rnd : RandLong} {data : List (String × PyObj)} {schemaId : PyObj}
    (h : putBinaryTypeData codecs.typeCode entityId typeName affinityKeyField isEnum
      (schema.getD []) = .ok (data, schemaId)) :
    Decodes reader ((putBinaryTypeQuery opCodes isEnum queryId).responseSpec conn [] []) request
      (fun _ => .ok (.dict [("type_id", .int (entityId (.str typeName))), ("schema_id", schemaId)]))
      (putBinaryType codecs reader opCodes entityId conn request typeName affinityKeyField isEnum
        schema queryId rnd) := by
  rw [putBinaryType, h]
  simpa using Decodes.postProcess_onSuccess Query.perform_decodes

theorem putBinaryType_answers {codecs : Codecs} {reader : Reader} {opCodes : OpCodes}
    {entityId : PyObj → Int} {conn : Connection}
    {request : List UInt8 → Except PyError (List UInt8)} {typeName : String}
    {affinityKeyField : PyObj} {isEnum : Bool} {schema : Option (List (String × PyObj))}
    {queryId : Option Int} {rnd : RandLong} {data : List (String × PyObj)} {schemaId : PyObj}
    (h : putBinaryTypeData codecs.typeCode entityId typeName affinityKeyField isEnum
      (schema.getD []) = .ok (data, schemaId)) :
    Answers reader ((putBinaryTypeQuery opCodes isEnum queryId).responseSpec conn [] []) request
      (fun _ => .ok (.dict [("type_id", .int (entityId (.str typeName))), ("schema_id", schemaId)]))
      (putBinaryType codecs reader opCodes entityId conn request typeName affinityKeyField isEnum
        schema queryId rnd) := by
  rw [putBinaryType, h]
  simpa using Answers.postProcess_onSuccess Query.perform_answers

theorem binaryFieldsLoop_schemaId {typeCode : DataType → List UInt8} {entityId : PyObj → Int} :
    ∀ {schema : List (String × PyObj)} {s : Int} {fields : List PyObj} {schemaId : Int},
      binaryFieldsLoop typeCode entityId schema s = .ok (fields, schemaId) →
      schemaId = (schema.map fun f => entityId (.str f.1)).foldl schemaIdStep s
  | [], _, _, _, h => by cases h; rfl
  | (name, o) :: schema, s, fields, schemaId, h => by
    obtain ⟨_, -, h⟩ := bind_eq_ok h
    obtain ⟨⟨fs, sid⟩, hl, h⟩ := bind_eq_ok h
    cases h
    rw [binaryFieldsLoop_schemaId hl]
    rfl

theorem putBinaryTypeData_schemaId_int32 {typeCode : DataType → List UInt8}
    {entityId : PyObj → Int} {typeName : String} {affinityKeyField : PyObj}
    {schema : List (String × PyObj)} {data : List (String × PyObj)} {schemaId : PyObj}
    (h : putBinaryTypeData typeCode entityId typeName affinityKeyField false schema =
      .ok (data, schemaId)) :
    ∃ v : Int, schemaId = .int v ∧ -2 ^ 31 ≤ v ∧ v < 2 ^ 31 := by
  obtain ⟨⟨fields, sid⟩, hl, h⟩ := bind_eq_ok h
  cases h
  refine ⟨sid, rfl, ?_⟩
  rw [binaryFieldsLoop_schemaId hl]
  cases schema with
  | nil => simp
  | cons f schema =>
    rw [List.map_cons, ← foldl_schemaIdStep_signed _ _ (List.cons_ne_nil _ _)]
    exact toSigned32_range (BitVec.isLt _)

/-- The schema id a registration of a binary object type reports on status 0 is an int32,
whatever the field ids `entity_id` hashes to. -/
theorem putBinaryType_schemaId_int32 (codecs : Codecs) (reader : Reader) (opCodes : OpCodes)
    (entityId : PyObj → Int) (conn : Connection)
    (request : List UInt8 → Except PyError (List UInt8)) (typeName : String)
    (affinityKeyField : PyObj) (schema : Option (List (String × PyObj))) (queryId : Option Int)
    (rnd : RandLong) {r : APIResult}
    (h : (putBinaryType codecs reader opCodes entityId conn request typeName affinityKeyField false
      schema queryId rnd).result = .ok r)
    (h0 : r.status = 0) :
    ∃ v : Int,
      r.value = .dict [("type_id", .int (entityId (.str typeName))), ("schema_id", .int v)] ∧
      -2 ^ 31 ≤ v ∧ v < 2 ^ 31 := by
  cases hd : putBinaryTypeData codecs.typeCode entityId typeName affinityKeyField false
      (schema.getD []) with
  | error e => simp [putBinaryType, hd] at h
  | ok p =>
    obtain ⟨data, schemaId⟩ := p
    obtain ⟨v, rfl, hv⟩ := putBinaryTypeData_schemaId_int32 hd
    obtain ⟨-, -, response, -, -, -, -, -, -, -, hz⟩ := putBinaryType_decodes hd r h
    obtain ⟨-, -, hval⟩ := bind_eq_ok (hz h0)
    exact ⟨v, (Except.ok.inj hval).symm, hv⟩

theorem twoFieldRegistration_schemaId_int32 :
    let codecs : Codecs := ⟨fun _ st _ => .ok st, fun _ st _ => .ok st, fun _ => [], fun _ => []⟩
    let reader : Reader := ⟨fun _ _ => .ok ⟨0, none, 0, 0, 0, none, []⟩,
      fun _ _ => .ok ⟨0, none, 0, 0, 0, none, []⟩, fun _ _ => .ok [], fun _ _ => .ok []⟩
    ∃ r : APIResult, (putBinaryType codecs reader ⟨0, 0, 0, 0, 0, 0, 0, 0, 0⟩ (fun _ => 7)
        ⟨⟨(0, 0)⟩, ⟨true⟩⟩ (fun _ => .ok []) "Point" .none false
        (some [("x", .dataType .string), ("y", .dataType .string)]) none
        ⟨0, by decide, by decide⟩).result = .ok r ∧ r.status = 0 ∧
      ∃ v : Int, r.value = .dict [("type_id", .int 7), ("schema_id", .int v)] ∧
        -2 ^ 31 ≤ v ∧ v < 2 ^ 31 := by
  intro codecs reader
  exact ⟨_, rfl, rfl, putBinaryType_schemaId_int32 codecs reader ⟨0, 0, 0, 0, 0, 0, 0, 0, 0⟩
    (fun _ => 7) ⟨⟨(0, 0)⟩, ⟨true⟩⟩ (fun _ => .ok []) "Point" .none
    (some [("x", .dataType .string), ("y", .dataType .string)]) none ⟨0, by decide, by decide⟩
    rfl rfl⟩

/-- A non-enum registration raises `AttributeError` before anything is sent, with the client
untouched, at the first schema value without a `type_code`: a primitive class such as `Int`, a
struct instance, or a value that is not a data type at all. -/
theorem putBinaryType_noTypeCode (codecs : Codecs) (reader : Reader) (opCodes : OpCodes)
    (entityId : PyObj → Int) (conn : Connection)
    (request : List UInt8 → Except PyError (List UInt8)) (typeName : String)
    (affinityKeyField : PyObj) (pre : List (String × DataType))
    (hpre : ∀ f ∈ pre, f.2.typeCodeError = none) (name : String) (o : PyObj)
    (post : List (String × PyObj)) {msg : String} (ho : o.typeCodeError = some msg)
    (queryId : Option Int) (rnd : RandLong) :
    putBinaryType codecs reader opCodes entityId conn request typeName affinityKeyField false
        (some (pre.map (fun f => (f.1, .dataType f.2)) ++ (name, o) :: post)) queryId rnd =
      ⟨none, conn.client, .error (.attributeError msg)⟩ := by
  simp [putBinaryType, putBinaryTypeData, binaryFieldsLoop_noTypeCode _ _ pre hpre name o post ho]

theorem putBinaryType_intField_raises :
    let codecs : Codecs := ⟨fun _ st _ => .ok st, fun _ st _ => .ok st, fun _ => [], fun _ => []⟩
    let reader : Reader := ⟨fun _ _ => .error (.other "ValueError" ""),
      fun _ _ => .error (.other "ValueError" ""), fun _ _ => .ok [], fun _ _ => .ok []⟩
    putBinaryType codecs reader ⟨0, 0, 0, 0, 0, 0, 0, 0, 0⟩ (fun _ => 0) ⟨⟨(0, 0)⟩, ⟨true⟩⟩
        (fun _ => .ok []) "T" .none false (some [("s", .dataType .string), ("a", .dataType .int)])
        none ⟨0, by decide, by decide⟩ =
      ⟨none, ⟨(0, 0)⟩,
        .error (.attributeError "type object \x27Int\x27 has no attribute \x27type_code\x27")⟩ := by
  intro codecs reader
  exact putBinaryType_noTypeCode codecs reader _ _ _ _ "T" .none [("s", .string)] (by decide) "a"
    (.dataType .int) [] rfl none _

/-! ## Looking a binary type up -/

/-- `get_binary_type` never reaches `connection.send`: `from_python` is handed the values dict as
its stream and raises at `stream.tell()`, whatever the type and the query id. -/
theorem getBinaryType_raises (codecs : Codecs) (opCodes : OpCodes) (entityId : PyObj → Int)
    (conn : Connection) (binaryType : PyObj) (queryId : Option Int) (rnd : RandLong) :
    getBinaryType codecs opCodes entityId conn binaryType queryId rnd =
      ⟨none, conn.client,
        .error (.attributeError "\x27dict\x27 object has no attribute \x27tell\x27")⟩ := by
  have h : (PyObj.dict [("type_id", .int (entityId binaryType))]).asStream =
      .error (.attributeError "\x27dict\x27 object has no attribute \x27tell\x27") := rfl
  simp only [getBinaryType, Query.fromPython, Query.encode_asStream_error h]

end PyIgnite
