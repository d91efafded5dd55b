import DqMadeEasy.Exceptions.Times
import DqMadeEasy.Logic.Grouping

/-!
# The store of violations

An exception record is normalised before it is stored: its texts are stripped, the metadata that
analytics need must be there, and its id is a digest of what it says. A record of an identity that
is stored replaces the stored one.
-/

namespace DqMadeEasy

/-- The SHA-256 digest of a text, in hexadecimal. -/
class PySha256 where
  hexdigest : Text → Text

namespace Exceptions

open Runs Worker

/-- `ExceptionRecordCreateEntity`. -/
structure ExceptionRecordCreateEntity where
  id : Option Text := none
  dataObjectVersionId : Text
  executionRunId : Text
  ruleId : Text
  recordIdentifierType : Text
  recordIdentifierValue : Text
  reasonCode : Text
  reasonText : Text
  failureClass : Option Text := none
  detectedAt : Option Text := none
  opsMetadata : Dict := []

/-- `GxExecutionViolationCreateEntity` of a normalised violation, which has an id. -/
structure GxExecutionViolationCreateEntity where
  id : Text
  dataObjectVersionId : Text
  executionRunId : Text
  ruleId : Text
  dataPrimaryKey : Text
  violationReason : Text
  opsMetadata : Dict
  detectedAt : Option Text

/-- A stored violation. -/
structure ViolationRecord where
  id : Text
  dataObjectVersionId : Text
  executionRunId : Text
  ruleId : Text
  dataPrimaryKey : Text
  violationReason : Text
  opsMetadata : Dict
  detectedAt : Text
  createdAt : Text
  updatedAt : Text

/-- The stored violations by data object version and id. -/
abbrev ViolationStore := List ((Text × Text) × ViolationRecord)

section Normalizing

variable [PyRuntime] [PyNumerals]

/-! ### Metadata -/

/-- The first of some entries with a text that is not blank. -/
def readText (payload : Dict) (keys : List String) : Option Text :=
  keys.findSome? fun key =>
    let value := (payload.get key).strippedText
    if value = [] then none else some value

omit [PyRuntime] [PyNumerals] in
/-- `ops_metadata[key] = text`. -/
def insertText (ops : Dict) (key : String) (t : Text) : Dict :=
  ops.insert key.toList (.scalar (.str t))

/-- `str(ops_metadata.get(key) or "").strip()`. -/
def keptText (ops : Dict) (key : String) : Text := (ops.get key).strippedText

theorem keptText_insert_of_ne {ops : Dict} {key key' : String} (value : Json)
    (h : key'.toList ≠ key.toList) :
    keptText (ops.insert key'.toList value) key = keptText ops key := by
  rw [keptText, Dict.get, Dict.find?, Dict.insert, Assoc.find?_update, if_neg h]
  rfl

theorem keptText_insertText {ops : Dict} {key : String} {t : Text} :
    keptText (insertText ops key t) key = Text.strip t := by
  rw [keptText, Dict.get, Dict.find?, insertText, Dict.insert, Assoc.find?_update, if_pos rfl]
  cases t with
  | nil => rfl
  | cons c t => rfl

/-! ### Texts of JSON -/

omit [PyRuntime] [PyNumerals] in
/-- A character inside a text of `json.dumps` with `ensure_ascii=False`. -/
def escaped (c : Char) : Text :=
  let hex (n : ℕ) : Char := Nat.digitChar n
  if c = '"' then ['\\', '"']
  else if c = '\\' then ['\\', '\\']
  else if c = '\n' then ['\\', 'n']
  else if c = '\r' then ['\\', 'r']
  else if c = '\t' then ['\\', 't']
  else if c.toNat = 8 then ['\\', 'b']
  else if c.toNat = 12 then ['\\', 'f']
  else if c.toNat < 32 then ['\\', 'u', '0', '0', hex (c.toNat / 16), hex (c.toNat % 16)]
  else [c]

omit [PyRuntime] [PyNumerals] in
/-- `json.dumps` of a text. -/
def dumpText (t : Text) : Text := '"' :: t.flatMap escaped ++ ['"']

omit [PyRuntime] [PyNumerals] in
/-- `json.dumps` of a dictionary of texts with sorted keys. -/
def dumpTexts (entries : List (String × Option Text)) : Text :=
  let entry (e : String × Option Text) : Text :=
    dumpText e.1.toList ++ ':' :: e.2.elim "null" dumpText
  '\x7b' :: Text.join [','] (entries.map entry) ++ ['\x7d']

/-! ### Normalising -/

omit [PyRuntime] [PyNumerals] in
/-- `ExceptionStorageError`. -/
def storageError (message : Text) : PyError :=
  .mk .exception "app.application.services.exception_storage" "ExceptionStorageError" message
    none none

omit [PyRuntime] [PyNumerals] in
def requireText (name : String) (t : Text) : Except PyError Unit :=
  if t = [] then .error (storageError ("Violation record is missing " ++ name).toList) else .ok ()

/-- `_read_violation_positive_int`, where the first key names what is missing. -/
def readViolationPositiveInt (violation : Dict) (name : String) :
    List String → Except PyError ℤ
  | [] => .error (storageError ("Violation record is missing " ++ name).toList)
  | key :: keys =>
    match violation.get key with
    | .scalar .none | .scalar (.str []) => readViolationPositiveInt violation name keys
    | value =>
      match pyInt value with
      | .ok number =>
        if number < 1 then .error (storageError ("Violation record has invalid " ++ key).toList)
        else .ok number
      | .error exc =>
        if exc.className = "OverflowError" then .error exc
        else .error (storageError ("Violation record has invalid " ++ key).toList)

omit [PyRuntime] [PyNumerals] in
def supportedRecordIdentifierTypes : List Text :=
  ["primary_key", "business_key", "data_object_version"]

/-- The metadata of `_to_exception_record_payload`. -/
def payloadOpsMetadata (record : ExceptionRecordCreateEntity) : Dict :=
  match record.failureClass with
  | some failureClass =>
    if failureClass ≠ [] ∧ keptText record.opsMetadata "failure_class" = [] then
      insertText record.opsMetadata "failure_class" failureClass
    else record.opsMetadata
  | none => record.opsMetadata

/-- A text, set where there is none. -/
def defaultText (ops : Dict) (key : String) (t : Text) : Dict :=
  if keptText ops key = [] then insertText ops key t else ops

theorem keptText_defaultText_of_ne {ops : Dict} {key key' : String} (t : Text)
    (h : key'.toList ≠ key.toList) : keptText (defaultText ops key' t) key = keptText ops key := by
  rw [defaultText]
  split
  · exact keptText_insert_of_ne _ h
  · rfl

variable [PySha256]

omit [PyRuntime] [PyNumerals] in
def buildIdentifierHash (recordIdentifierType recordIdentifierValue : Text) : Text :=
  "sha256:" ++
    PySha256.hexdigest (recordIdentifierType ++ ':' :: recordIdentifierValue)

omit [PyRuntime] [PyNumerals] in
/-- The id of a violation: a digest of its canonical payload. The payload of a record has no entry
`violation_id`, so its own id is not used. -/
def violationIdOf (record : ExceptionRecordCreateEntity) : Text :=
  let payload := dumpTexts [
    ("dataObjectVersionId", some (Text.strip record.dataObjectVersionId)),
    ("detectedAt", nonBlank (record.detectedAt.getD [])),
    ("executionRunId", some (Text.strip record.executionRunId)),
    ("reasonCode", some (Text.strip record.reasonCode)),
    ("reasonText", some (Text.strip record.reasonText)),
    ("recordIdentifierType", some (Text.strip record.recordIdentifierType)),
    ("recordIdentifierValue", some (Text.strip record.recordIdentifierValue)),
    ("ruleId", some (Text.strip record.ruleId))]
  "gx-violation-" ++ (PySha256.hexdigest payload).take 32

/-- The metadata that `_normalize_violation_record` returns. -/
def normalizedOpsMetadata (record : ExceptionRecordCreateEntity) (ops : Dict)
    (artifactId : Text) (artifactVersion : ℤ) (ruleVersionId engineType : Text) : Dict :=
  let ops := insertText ops "record_identifier_type" (Text.strip record.recordIdentifierType)
  let ops := insertText ops "record_identifier_value" (Text.strip record.recordIdentifierValue)
  let ops := insertText ops "reason_code" (Text.strip record.reasonCode)
  let ops := insertText ops "reason_text" (Text.strip record.reasonText)
  let ops := insertText ops "validation_artifact_id" artifactId
  let ops := ops.insert "validation_artifact_version" (.int artifactVersion)
  let ops := insertText ops "rule_version_id" ruleVersionId
  let ops := insertText ops "engine_type" engineType
  let ops := defaultText ops "failure_class" (Text.strip record.reasonCode)
  defaultText ops "identifier_hash" (buildIdentifierHash (Text.strip record.recordIdentifierType)
    (Text.strip record.recordIdentifierValue))

/-- `_to_violation_create_entity` of `_normalize_violation_record`. -/
def toViolationCreateEntity (record : ExceptionRecordCreateEntity) :
    Except PyError GxExecutionViolationCreateEntity := do
  requireText "data_object_version_id" (Text.strip record.dataObjectVersionId)
  requireText "execution_run_id" (Text.strip record.executionRunId)
  let recordIdentifierType := Text.strip record.recordIdentifierType
  requireText "record_identifier_type" recordIdentifierType
  if recordIdentifierType ∉ supportedRecordIdentifierTypes then
    .error (storageError ("Violation record has unsupported record_identifier_type '" ++
      recordIdentifierType ++ ['\'']))
  else
    requireText "record_identifier_value" (Text.strip record.recordIdentifierValue)
    requireText "rule_id" (Text.strip record.ruleId)
    requireText "reason_code" (Text.strip record.reasonCode)
    requireText "reason_text" (Text.strip record.reasonText)
    let ops := payloadOpsMetadata record
    let artifactId := (readText ops ["validation_artifact_id", "validationArtifactId"]).getD []
    let artifactVersion ← readViolationPositiveInt ops "validation_artifact_version"
      ["validation_artifact_version", "validationArtifactVersion"]
    let ruleVersionId := (readText ops ["rule_version_id", "ruleVersionId"]).getD []
    let engineType := (readText ops ["engine_type", "engineType"]).getD []
    requireText "validation_artifact_id" artifactId
    requireText "rule_version_id" ruleVersionId
    requireText "engine_type" engineType
    return {
      id := violationIdOf record
      dataObjectVersionId := Text.strip record.dataObjectVersionId
      executionRunId := Text.strip record.executionRunId
      ruleId := Text.strip record.ruleId
      dataPrimaryKey := Text.strip record.recordIdentifierValue
      violationReason := Text.strip record.reasonText
      opsMetadata := normalizedOpsMetadata record ops artifactId artifactVersion ruleVersionId
        engineType
      detectedAt := nonBlank (record.detectedAt.getD []) }

/-- What analytics read of a normalised violation. -/
structure Normalizes (record : ExceptionRecordCreateEntity)
    (violation : GxExecutionViolationCreateEntity) : Prop where
  dataObjectVersionId : violation.dataObjectVersionId = Text.strip record.dataObjectVersionId
  executionRunId : violation.executionRunId = Text.strip record.executionRunId
  ruleId : violation.ruleId = Text.strip record.ruleId
  reasonCode : keptText violation.opsMetadata "reason_code" = Text.strip record.reasonCode
  reasonText : keptText violation.opsMetadata "reason_text" = Text.strip record.reasonText
  detectedAt : violation.detectedAt = nonBlank (record.detectedAt.getD [])

theorem keptText_normalizedOpsMetadata {record : ExceptionRecordCreateEntity} {ops : Dict}
    {artifactId ruleVersionId engineType : Text} {artifactVersion : ℤ} :
    let normalized := normalizedOpsMetadata record ops artifactId artifactVersion ruleVersionId
      engineType
    keptText normalized "reason_code" = Text.strip record.reasonCode ∧
      keptText normalized "reason_text" = Text.strip record.reasonText := by
  constructor
  · simp only [normalizedOpsMetadata, insertText]
    rw [keptText_defaultText_of_ne _ (by decide), keptText_defaultText_of_ne _ (by decide),
      keptText_insert_of_ne _ (by decide), keptText_insert_of_ne _ (by decide),
      keptText_insert_of_ne _ (by decide), keptText_insert_of_ne _ (by decide),
      keptText_insert_of_ne _ (by decide), ← insertText, keptText_insertText, Text.strip_strip]
  · simp only [normalizedOpsMetadata, insertText]
    rw [keptText_defaultText_of_ne _ (by decide), keptText_defaultText_of_ne _ (by decide),
      keptText_insert_of_ne _ (by decide), keptText_insert_of_ne _ (by decide),
      keptText_insert_of_ne _ (by decide), keptText_insert_of_ne _ (by decide), ← insertText,
      keptText_insertText, Text.strip_strip]

/-- A violation that is created has the id and the texts of its record. -/
theorem exists_of_toViolationCreateEntity {record : ExceptionRecordCreateEntity}
    {violation : GxExecutionViolationCreateEntity}
    (h : toViolationCreateEntity record = .ok violation) :
    ∃ (artifactVersion : ℤ) (artifactId ruleVersionId engineType : Text), violation =
      { id := violationIdOf record
        dataObjectVersionId := Text.strip record.dataObjectVersionId
        executionRunId := Text.strip record.executionRunId
        ruleId := Text.strip record.ruleId
        dataPrimaryKey := Text.strip record.recordIdentifierValue
        violationReason := Text.strip record.reasonText
        opsMetadata := normalizedOpsMetadata record (payloadOpsMetadata record) artifactId
          artifactVersion ruleVersionId engineType
        detectedAt := nonBlank (record.detectedAt.getD []) } := by
  obtain ⟨-, -, h⟩ := ok_of_bind h
  obtain ⟨-, -, h⟩ := ok_of_bind h
  obtain ⟨-, -, h⟩ := ok_of_bind h
  split at h
  · cases h
  · obtain ⟨-, -, h⟩ := ok_of_bind h
    obtain ⟨-, -, h⟩ := ok_of_bind h
    obtain ⟨-, -, h⟩ := ok_of_bind h
    obtain ⟨-, -, h⟩ := ok_of_bind h
    obtain ⟨artifactVersion, -, h⟩ := ok_of_bind h
    obtain ⟨-, -, h⟩ := ok_of_bind h
    obtain ⟨-, -, h⟩ := ok_of_bind h
    obtain ⟨-, -, h⟩ := ok_of_bind h
    exact ⟨artifactVersion, _, _, _, (Except.ok.inj h).symm⟩

theorem toViolationCreateEntity_ok {record : ExceptionRecordCreateEntity}
    {violation : GxExecutionViolationCreateEntity}
    (h : toViolationCreateEntity record = .ok violation) : Normalizes record violation := by
  obtain ⟨artifactVersion, artifactId, ruleVersionId, engineType, rfl⟩ :=
    exists_of_toViolationCreateEntity h
  exact ⟨rfl, rfl, rfl, keptText_normalizedOpsMetadata.1, keptText_normalizedOpsMetadata.2, rfl⟩

/-! ### Saving -/

variable [PyDatetime]

omit [PyRuntime] [PyNumerals] [PySha256] in
/-- The stored violation of an entity, at a reading of the clock. -/
def violationRecord (now : ℕ) (violation : GxExecutionViolationCreateEntity) : ViolationRecord :=
  let timestamp := violation.detectedAt.getD (Datetime.nowIso now)
  { id := violation.id
    dataObjectVersionId := violation.dataObjectVersionId
    executionRunId := violation.executionRunId
    ruleId := violation.ruleId
    dataPrimaryKey := violation.dataPrimaryKey
    violationReason := violation.violationReason
    opsMetadata := violation.opsMetadata
    detectedAt := timestamp
    createdAt := timestamp
    updatedAt := timestamp }

omit [PyRuntime] [PyNumerals] [PySha256] [PyDatetime] in
def GxExecutionViolationCreateEntity.key (violation : GxExecutionViolationCreateEntity) :
    Text × Text := (violation.dataObjectVersionId, violation.id)

omit [PyRuntime] [PyNumerals] [PySha256] in
def saveViolations (now : ℕ) (store : ViolationStore)
    (violations : List GxExecutionViolationCreateEntity) : ViolationStore :=
  Assoc.assignAll GxExecutionViolationCreateEntity.key (violationRecord now) violations store

/-- `persist_violations` of the backend that stores violations in a repository. -/
def persistViolations (now : ℕ) (store : ViolationStore)
    (records : List ExceptionRecordCreateEntity) : Except PyError ViolationStore :=
  (records.mapM toViolationCreateEntity).map (saveViolations now store)

end Normalizing

end Exceptions

end DqMadeEasy
