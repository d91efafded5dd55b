import DqMadeEasy.Logic.Grouping
import DqMadeEasy.Text.Json

/-!
# Contract snapshots

The canonical form of a data contract: its version and the normalised fields of its schema. The
schema may be given as a list or as a mapping, and so may its properties.
-/

namespace DqMadeEasy

namespace Contracts

/-- A normalised field. -/
structure ContractField where
  name : Text
  logicalType : Text
  physicalType : Text
  description : Option Text
  required : Bool
  nullable : Bool
  unique : Bool
  classification : Text
  primaryKey : Bool
  primaryKeyPosition : Json

/-- What a comparison reads of a snapshot. -/
structure ContractSnapshot where
  version : Text
  fields : List ContractField

def logicalTypeAliases : List (Text × Text) :=
  [("char", "string"), ("date-time", "datetime"), ("datetime", "datetime"),
    ("datetimeoffset", "datetime"), ("double", "number"), ("float", "number"), ("int", "integer"),
    ("integer", "integer"), ("long", "integer"), ("number", "number"), ("numeric", "number"),
    ("smallint", "integer"), ("string", "string"), ("text", "string"), ("timestamp", "datetime"),
    ("uuid", "string"), ("varchar", "string"), ("bool", "boolean"), ("boolean", "boolean"),
    ("date", "date"), ("object", "object"), ("array", "array")].map fun entry =>
      (entry.1.toList, entry.2.toList)

section Normalizing

variable [PyRuntime]

/-- `_normalize_logical_type` of a text. -/
def normalizeLogicalType (value : Text) : Text :=
  let normalized := PyRuntime.lower (Text.strip value)
  if normalized = [] then "string"
  else (Assoc.find? logicalTypeAliases normalized).getD normalized

variable [PyNumerals]

def cleanOptionalText (value : Json) : Option Text :=
  if value.strippedText = [] then none else some value.strippedText

/-- `_coerce_bool`. -/
def coerceFlag (value : Json) (default : Bool) : Bool :=
  match value with
  | .scalar .none => default
  | .scalar (.bool flag) => flag
  | value =>
    let normalized := PyRuntime.lower value.strippedText
    if normalized = [] then default
    else decide (normalized ∈ ["1", "true", "yes", "y", "on"].map String.toList)

/-- The first of some entries that is not empty, and the last one otherwise. -/
def firstTruthy (payload : Dict) : List String → Json
  | [] => .null
  | [key] => payload.get key
  | key :: keys => (payload.get key).orElse (firstTruthy payload keys)

def orDefault (t : Text) (default : String) : Text := if t = [] then default.toList else t

def normalizeContractField (payload : Dict) : ContractField :=
  let required := coerceFlag (payload.get "required") false
  { name := (["name", "field", "property"].findSome? fun key =>
      cleanOptionalText (payload.get key)).getD []
    logicalType := normalizeLogicalType
      (firstTruthy payload ["logicalType", "logical_type", "type", "data_type"]).strippedText
    physicalType := orDefault (Text.upper (firstTruthy payload
      ["physicalType", "physical_type", "databaseType", "data_type"]).strippedText) "STRING"
    description := cleanOptionalText (payload.get "description")
    required := required
    nullable := coerceFlag (payload.get "nullable") !required
    unique := coerceFlag (payload.get "unique") false
    classification :=
      (cleanOptionalText (payload.get "classification")).getD "public"
    primaryKey := coerceFlag (payload.get "primaryKey") false
    primaryKeyPosition := payload.get "primaryKeyPosition" }

omit [PyRuntime] [PyNumerals] in
def schemaEntry (contractPayload : Dict) : Dict :=
  match contractPayload.get "schema" with
  | .list items => (items.findSome? Json.asDict?).getD []
  | .dict entries => entries
  | _ => []

omit [PyRuntime] [PyNumerals] in
def propertyItems (schema : Dict) : List Dict :=
  match schema.get "properties" with
  | .list items => items.filterMap Json.asDict?
  | .dict entries => entries.map fun entry =>
    match entry.2 with
    | .dict value => Dict.merge [("name", .scalar (.str entry.1))] value
    | value => [("name", .scalar (.str entry.1)), ("logicalType", value)]
  | _ => []

def buildCanonicalContractSnapshot (contractPayload : Dict) : ContractSnapshot where
  version := (contractPayload.get "version").strippedText
  fields := (propertyItems (schemaEntry contractPayload)).map normalizeContractField

end Normalizing

/-! ### Field maps -/

/-- The fields by their names. A later field of a name replaces an earlier one. -/
abbrev FieldMap := List (Text × ContractField)

/-- `_field_map`, of the fields of a snapshot or of an observed schema. -/
def fieldMap (fields : List ContractField) : FieldMap :=
  Assoc.assignAll ContractField.name id (fields.filter fun field => Text.strip field.name ≠ []) []

theorem nodup_keys_fieldMap (fields : List ContractField) :
    (Assoc.keys (fieldMap fields)).Nodup := Assoc.nodup_keys_assignAll ..

end Contracts

end DqMadeEasy
