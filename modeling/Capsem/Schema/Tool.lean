import Mathlib.Data.List.Nodup
import Capsem.Python.Json

/-! # The tool schema of `src/test.py`

`src/test.py` defines a `Tool` whose parameters and return value are parsed JSON schemas, and two
wire formats for it: the OpenAI function format, written by `to_openai_format` and read by
`from_json`, and the MCP format, written by `to_mcp_format` and read by `from_mcp`.

* `Dict α`: a Python `dict` with string keys, its entries in insertion order, one per key;
  `Dict.set` is `d[k] = v`, and `setAll` the loop `for k, v in kvs: d[k] = f(v)` of the decoders.
* `ParameterProperty`, `ParameterSchema`, `ReturnSchema`, `Tool`: the pydantic models, each with
  the validation its constructor performs (`validate`) and, where the encoders call it,
  `model_dump(exclude_none=True)` (`dump`).
* `Tool.encode`: the two encoders, which differ only in the keys they write. `Tool.decode`: the
  two decoders, which differ in those keys and in how they read the schema object and the
  description.

Python values are `Json`. A value of type `Any` in a property's `items` is a JSON value, the only
kind the two wire formats carry; `model_dump` copies it, as it drops `None` only from the fields
of a model. Pydantic reports the first field that fails, with its message abbreviated to the
model, the field and the reason.
-/

namespace Capsem.Schema
set_option autoImplicit false

/-! ## Python dicts -/

/-- A Python `dict` with string keys: its entries in insertion order, one per key. -/
structure Dict (α : Type) where
  entries : List (String × α)
  keys_nodup : (entries.map Prod.fst).Nodup

namespace Dict
variable {α : Type}

@[ext] theorem ext {d d' : Dict α} (h : d.entries = d'.entries) : d = d' := by
  cases d
  cases d'
  cases h
  rfl

/-- `{}`. -/
def empty : Dict α := ⟨[], List.nodup_nil⟩

@[simp] theorem entries_empty : (empty : Dict α).entries = [] := rfl

/-- The entries after `d[k] = v`: the value of `k` replaced where it stands, or `(k, v)` put
last. -/
def setEntry (k : String) (v : α) : List (String × α) → List (String × α)
  | [] => [(k, v)]
  | e :: es => if e.1 = k then (k, v) :: es else e :: setEntry k v es

/-- An assignment keeps the keys, or adds its key last. -/
theorem keys_setEntry (k : String) (v : α) (es : List (String × α)) :
    (setEntry k v es).map Prod.fst =
      if k ∈ es.map Prod.fst then es.map Prod.fst else es.map Prod.fst ++ [k] := by
  induction es with
  | nil => rfl
  | cons e es ih =>
    by_cases he : e.1 = k
    · simp [setEntry, he]
    · by_cases hk : k ∈ es.map Prod.fst
      · simp [setEntry, he, ih, hk]
      · simp [setEntry, he, ih, hk, Ne.symm he]

/-- `d[k] = v`. -/
def set (d : Dict α) (k : String) (v : α) : Dict α :=
  ⟨setEntry k v d.entries, by
    rw [keys_setEntry]
    split
    · exact d.keys_nodup
    · exact List.nodup_append.2 ⟨d.keys_nodup, List.nodup_singleton k,
        List.disjoint_singleton.2 ‹_›⟩⟩

/-- The `dict` as a JSON object, each value written by `f`. -/
def toJson (f : α → Json) (d : Dict α) : Json :=
  .obj (d.entries.map fun e => (e.1, f e.2))

end Dict

/-- `for k, v in kvs: d[k] = f(v)`, from `d`; the first value `f` rejects raises. -/
def setAll {α : Type} (f : Json → Except PyExc α) : Dict α → List (String × Json) →
    Except PyExc (Dict α)
  | d, [] => .ok d
  | d, (k, v) :: kvs => do setAll f (d.set k (← f v)) kvs

/-! ## Pydantic's field checks -/

/-- The `ValidationError` of `model` on `field`, a `ValueError`. -/
def validationError (model field reason : String) : PyExc :=
  .valueError ("1 validation error for " ++ model ++ "\n" ++ field ++ "\n  " ++ reason)

/-- A `str` field: `none` is a missing argument. -/
def validStr (model field : String) : Option Json → Except PyExc String
  | some (.str s) => .ok s
  | none => .error (validationError model field "Field required")
  | some _ => .error (validationError model field "Input should be a valid string")

/-- An `Optional[str]` field. -/
def validOptStr (model field : String) : Option Json → Except PyExc (Option String)
  | none | some .null => .ok none
  | some (.str s) => .ok (some s)
  | some _ => .error (validationError model field "Input should be a valid string")

/-- The items of a `List[str]` field. -/
def strItems (model field : String) : List Json → Except PyExc (List String)
  | [] => .ok []
  | .str s :: xs => (s :: ·) <$> strItems model field xs
  | _ :: _ => .error (validationError model field "Input should be a valid string")

/-- An `Optional[List[str]]` field. -/
def validOptStrList (model field : String) : Option Json → Except PyExc (Option (List String))
  | none | some .null => .ok none
  | some (.arr xs) => some <$> strItems model field xs
  | some _ => .error (validationError model field "Input should be a valid list")

/-- An `Optional[Dict[str, Any]]` field: a `dict` is copied. -/
def validOptDict (model field : String) : Option Json → Except PyExc (Option (Dict Json))
  | none | some .null => .ok none
  | some (.obj kvs) => some <$> setAll .ok Dict.empty kvs
  | some _ => .error (validationError model field "Input should be a valid dictionary")

/-- The entry `(k, v)` when `v` is not `None`: how `model_dump(exclude_none=True)` writes an
optional field. -/
def optEntry (k : String) : Option Json → List (String × Json)
  | none => []
  | some v => [(k, v)]

/-! ## The models -/

/-- `ParameterProperty` (lines 19-23). -/
structure ParameterProperty where
  type : String
  description : Option String
  items : Option (Dict Json)
  enum : Option (List String)

/-- `ParameterProperty(**prop_data)`: the keyword arguments are the entries of a `dict`, and the
keys that name no field are ignored. -/
def ParameterProperty.validate (data : Json) : Except PyExc ParameterProperty :=
  match data with
  | .obj kvs => do
    let type ← validStr "ParameterProperty" "type" (kvs.lookup "type")
    let description ← validOptStr "ParameterProperty" "description" (kvs.lookup "description")
    let items ← validOptDict "ParameterProperty" "items" (kvs.lookup "items")
    let enum ← validOptStrList "ParameterProperty" "enum" (kvs.lookup "enum")
    pure ⟨type, description, items, enum⟩
  | _ => .error (.other
      ("ParameterProperty() argument after ** must be a mapping, not " ++ data.typeName))

/-- `prop.model_dump(exclude_none=True)`. -/
def ParameterProperty.dump (p : ParameterProperty) : Json :=
  .obj (("type", .str p.type) :: optEntry "description" (p.description.map .str) ++
    optEntry "items" (p.items.map (Dict.toJson id)) ++
    optEntry "enum" (p.enum.map fun xs => .arr (xs.map .str)))

/-- `ParameterSchema` (lines 25-28). -/
structure ParameterSchema where
  type : String
  properties : Dict ParameterProperty
  required : Option (List String)

/-- `ParameterSchema(type=type, properties=properties, required=required)`. -/
def ParameterSchema.validate (type : Json) (properties : Dict ParameterProperty)
    (required : Json) : Except PyExc ParameterSchema := do
  let type ← validStr "ParameterSchema" "type" (some type)
  let required ← validOptStrList "ParameterSchema" "required" (some required)
  pure ⟨type, properties, required⟩

/-- `ReturnSchema` (lines 30-33). -/
structure ReturnSchema where
  type : String
  description : Option String
  properties : Option (Dict ParameterProperty)

/-- `ReturnSchema(type=type, description=description, properties=properties)`. -/
def ReturnSchema.validate (type description : Json)
    (properties : Option (Dict ParameterProperty)) : Except PyExc ReturnSchema := do
  let type ← validStr "ReturnSchema" "type" (some type)
  let description ← validOptStr "ReturnSchema" "description" (some description)
  pure ⟨type, description, properties⟩

/-- `returns.model_dump(exclude_none=True)`: the properties are dumped the same way. -/
def ReturnSchema.dump (r : ReturnSchema) : Json :=
  .obj (("type", .str r.type) :: optEntry "description" (r.description.map .str) ++
    optEntry "properties" (r.properties.map (Dict.toJson ParameterProperty.dump)))

/-- `Tool` (lines 35-39). -/
structure Tool where
  name : String
  description : String
  parameters : ParameterSchema
  returns : Option ReturnSchema

/-- `Tool(name=name, description=description, parameters=parameters, returns=returns)`. -/
def Tool.validate (name description : Json) (parameters : ParameterSchema)
    (returns : Option ReturnSchema) : Except PyExc Tool := do
  let name ← validStr "Tool" "name" (some name)
  let description ← validStr "Tool" "description" (some description)
  pure ⟨name, description, parameters, returns⟩

/-! ## The decoders -/

/-- Lines 47-56 (and 87-96): the properties of a schema object, then its `ParameterSchema`. -/
def parseParameterSchema (params : Json) : Except PyExc ParameterSchema := do
  let properties ← setAll ParameterProperty.validate Dict.empty
    (← (← params.get "properties" (.obj [])).items)
  ParameterSchema.validate (← params.get "type" (.str "object")) properties
    (← params.get "required" (.arr []))

/-- Lines 61-71 (and 101-111): a return schema object. Empty properties become `None`. -/
def parseReturnSchema (data : Json) : Except PyExc ReturnSchema := do
  let props ← if ← data.contains "properties" then
      setAll ParameterProperty.validate Dict.empty (← (← data.index "properties").items)
    else pure Dict.empty
  ReturnSchema.validate (← data.get "type" (.str "object")) (← data.get "description" .null)
    (if props.entries.isEmpty then none else some props)

/-- `from_json` and `from_mcp` (lines 41-118): they read the schema object by `schemaOf`, the
return schema under `returnsKey`, and the description by `descriptionOf`. -/
def Tool.decode (schemaOf : Json → Except PyExc Json) (returnsKey : String)
    (descriptionOf : Json → Except PyExc Json) (data : Json) : Except PyExc Tool := do
  let parameters ← parseParameterSchema (← schemaOf data)
  let returns ← if ← data.contains returnsKey then
      some <$> parseReturnSchema (← data.index returnsKey)
    else pure none
  Tool.validate (← data.index "name") (← descriptionOf data) parameters returns

/-- `Tool.from_json(json_data)` (lines 41-78). -/
def Tool.fromJson : Json → Except PyExc Tool :=
  Tool.decode (·.index "parameters") "returns" (·.index "description")

/-- `Tool.from_mcp(mcp_data)` (lines 80-118). -/
def Tool.fromMcp : Json → Except PyExc Tool :=
  Tool.decode (·.get "inputSchema" (.obj [])) "outputSchema" (·.get "description" (.str ""))

/-! ## The encoders -/

/-- `if self.parameters.required: ...["required"] = self.parameters.required`. -/
def requiredEntry : Option (List String) → List (String × Json)
  | some (x :: xs) => [("required", .arr ((x :: xs).map .str))]
  | _ => []

/-- The schema object both encoders write: its type, its properties, then `required` when it is
not empty. -/
def ParameterSchema.toJson (p : ParameterSchema) : Json :=
  .obj ([("type", .str p.type), ("properties", p.properties.toJson ParameterProperty.dump)] ++
    requiredEntry p.required)

/-- `to_openai_format` and `to_mcp_format` (lines 120-162): they write the schema object under
`schemaKey` and the return schema under `returnsKey`. A `ReturnSchema` is always truthy, so
`if self.returns:` tests only for `None`. -/
def Tool.encode (schemaKey returnsKey : String) (t : Tool) : Json :=
  .obj ([("name", .str t.name), ("description", .str t.description),
      (schemaKey, t.parameters.toJson)] ++
    (t.returns.map fun r => [(returnsKey, r.dump)]).getD [])

/-- `tool.to_openai_format()` (lines 120-140). -/
def Tool.toOpenaiFormat : Tool → Json := Tool.encode "parameters" "returns"

/-- `tool.to_mcp_format()` (lines 142-162). -/
def Tool.toMcpFormat : Tool → Json := Tool.encode "inputSchema" "outputSchema"

end Capsem.Schema
