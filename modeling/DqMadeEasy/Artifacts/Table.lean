import DqMadeEasy.Artifacts.Listing
import DqMadeEasy.Logic.Keyed
import DqMadeEasy.Text.Datetime

/-!
# The writes of the artifact registries

Both validation artifact repositories compare the hash of the payload that is to be saved with the
hash of the one that is stored. The in-memory one stores the payload. The table keeps it in a column
and some of its fields in columns of their own, and rebuilds it from these.

What is hashed, and the zone of a time that names none, are parameters.
-/

namespace DqMadeEasy

namespace Artifacts

open Lifecycle

variable {Body : Type}

/-- The keys of a dumped assignment scope, each with its value. -/
structure PayloadScope where
  dataObjectId : Option (Option Text)
  datasetId : Option (Option Text)
  dataProductId : Option (Option Text)
  deriving DecidableEq

/-- An envelope as the dictionary that is hashed. -/
structure EnvelopePayload (Body : Type) where
  validationArtifactId : Text
  validationArtifactVersion : ℤ
  artifactContractVersion : Text
  engineType : Text
  assignmentScope : PayloadScope
  dataObjectVersionIds : List Text
  compiledFrom : CompiledFrom
  body : Body
  status : Option Text
  savedBy : Option Text
  sourcePipeline : Option Text

/-- `model_dump(exclude_none=True)`: an id that is `None` has no key. -/
def ValidationAssignmentScope.dumped (scope : ValidationAssignmentScope) : PayloadScope :=
  ⟨scope.dataObjectId.map some, scope.datasetId.map some, scope.dataProductId.map some⟩

/-- The dictionary of a row in memory, or of an envelope that is to be saved. -/
def StoredArtifact.payload (item : StoredArtifact (ValidationContent Body)) :
    EnvelopePayload Body where
  validationArtifactId := item.id
  validationArtifactVersion := item.version
  artifactContractVersion := item.content.artifactContractVersion
  engineType := item.content.engineType
  assignmentScope := item.content.assignmentScope.dumped
  dataObjectVersionIds := item.content.resolvedExecutionScope.dataObjectVersionIds
  compiledFrom := item.content.compiledFrom
  body := item.content.body
  status := some item.status
  savedBy := item.savedBy
  sourcePipeline := item.sourcePipeline

/-- The arguments of `save_artifact`, and what the clock shows. -/
structure SaveCommand (Body : Type) where
  envelope : ArtifactEnvelope (ValidationContent Body)
  status : Text
  expectedExistingHash : Option Text
  savedBy : Option Text
  sourcePipeline : Option Text
  now : Instant

def SaveCommand.stored (command : SaveCommand Body) : StoredArtifact (ValidationContent Body) :=
  command.envelope.stored command.status command.savedBy command.sourcePipeline

/-- `normalized`. -/
def SaveCommand.payload (command : SaveCommand Body) : EnvelopePayload Body :=
  command.stored.payload

def SaveCommand.again (command : SaveCommand Body) (now : Instant) : SaveCommand Body :=
  { command with expectedExistingHash := none, now := now }

/-- The arguments of `patch_artifact_status`, and what the clock shows. -/
structure PatchCommand where
  artifactId : Text
  artifactVersion : Option ℤ
  newStatus : Text
  changedBy : Option Text
  reason : Option Text
  now : Instant

/-- `old_status or None`. -/
def statusOrNone (status : Text) : Option Text := if status = [] then none else some status

/-! ### The in-memory repository -/

namespace Registry

variable {Content : Type}

/-- The row that `patch_artifact_status` changes: the one of a version, or the first of the highest
version. -/
def patchTarget (command : PatchCommand) (registry : Registry Content) :
    Option (StoredArtifact Content) :=
  match command.artifactVersion with
  | some version => registry.find? command.artifactId version
  | none => Keyed.highest? StoredArtifact.version
    (registry.artifacts.filter fun item => item.id = command.artifactId)

/-- `patch_artifact_status`. -/
def patch (command : PatchCommand) (registry : Registry Content) : Registry Content :=
  match registry.patchTarget command with
  | none => registry
  | some target => registry.patchArtifactStatus command.now target.id target.version
      command.newStatus command.changedBy command.reason

/-- `save_artifact`, with the `artifactHash` that it returns. -/
def save (hashPayload : EnvelopePayload Body → Text) (command : SaveCommand Body)
    (registry : Registry (ValidationContent Body)) :
    Except RepositoryError (EnvelopePayload Body × Text) × Registry (ValidationContent Body) :=
  let (outcome, registry') := registry.saveArtifact (fun item => hashPayload item.payload)
    command.now command.envelope command.status command.expectedExistingHash command.savedBy
    command.sourcePipeline
  (outcome.map fun row => (row.payload, hashPayload row.payload), registry')

end Registry

/-! ### The table -/

namespace Postgres

/-- The rows of the registry and of the status history. -/
structure ArtifactTables (Body : Type) where
  rows : List (RegistryRow Body)
  history : List ArtifactStatusHistory

/-- Why a method raises: in the repository, or in the database at the end of the transaction. -/
inductive TableError where
  | valueError (message : Text)
  | integrityError
  deriving DecidableEq

def RegistryRow.key (row : RegistryRow Body) : Text × ℤ :=
  (row.validationArtifactId, row.validationArtifactVersion)

def coerceStringList (items : List Text) : List Text := (items.map Text.strip).filter (· ≠ [])

/-- `a or b`, of values of columns and of keys that may be absent. -/
def valueOr (a b : Option Text) : Option Text := if a.getD [] = [] then b else a

/-- `a or b` of texts. -/
def textOr (a b : Text) : Text := if a = [] then b else a

section Times

variable [PyDatetime] (localToUtc : ℤ → ℤ)

/-- `_parse_generated_at`, as the column keeps it. -/
def parseGeneratedAt (now : Instant) (value : Text) : ℤ :=
  match Datetime.ofText (Text.strip value) with
  | none => now
  | some parsed => if parsed.aware then parsed.microseconds else localToUtc parsed.microseconds

/-- `_format_datetime` of a column. -/
def formatDatetime (value : ℤ) : Text :=
  Text.replace "+00:00" ['Z'] (PyDatetime.isoformat ⟨value, true⟩)

def buildEnvelope (row : RegistryRow Body) : EnvelopePayload Body :=
  let scope := row.envelopeJson.assignmentScope
  { validationArtifactId := row.validationArtifactId
    validationArtifactVersion := row.validationArtifactVersion
    artifactContractVersion := textOr row.artifactContractVersion "v1"
    engineType := row.engineType
    assignmentScope := ⟨some (valueOr row.dataObjectId scope.dataObjectId),
      some (valueOr row.datasetId scope.datasetId),
      some (valueOr row.dataProductId scope.dataProductId)⟩
    dataObjectVersionIds := coerceStringList row.resolvedDataObjectVersionIds
    compiledFrom := {
      ruleIds := coerceStringList row.compiledRuleIds
      compilerVersion := textOr row.compilerVersion
        (textOr row.envelopeJson.compiledFrom.compilerVersion "unknown")
      generatedAt := formatDatetime row.generatedAt }
    body := row.envelopeJson.body
    status := statusOrNone row.status
    savedBy := row.savedBy
    sourcePipeline := row.sourcePipeline }

variable (command : SaveCommand Body)

/-- The row that a save inserts. -/
def insertedRow : RegistryRow Body :=
  let content := command.envelope.content
  { validationArtifactId := Text.strip command.envelope.id
    validationArtifactVersion := command.envelope.version
    artifactContractVersion := textOr content.artifactContractVersion "v1"
    engineType := content.engineType
    status := command.status
    dataObjectId := content.assignmentScope.dataObjectId
    datasetId := content.assignmentScope.datasetId
    dataProductId := content.assignmentScope.dataProductId
    resolvedDataObjectVersionIds :=
      coerceStringList content.resolvedExecutionScope.dataObjectVersionIds
    compiledRuleIds := coerceStringList content.compiledFrom.ruleIds
    compilerVersion := textOr content.compiledFrom.compilerVersion "unknown"
    generatedAt := parseGeneratedAt localToUtc command.now content.compiledFrom.generatedAt
    envelopeJson := content
    savedBy := command.savedBy
    sourcePipeline := command.sourcePipeline }

/-- The row that a save leaves of a stored one. -/
def overwrittenRow (row : RegistryRow Body) : RegistryRow Body :=
  let content := command.envelope.content
  { insertedRow localToUtc command with
    validationArtifactId := row.validationArtifactId
    validationArtifactVersion := row.validationArtifactVersion
    artifactContractVersion := textOr content.artifactContractVersion
      (textOr row.artifactContractVersion "v1")
    engineType := textOr content.engineType row.engineType
    compilerVersion := textOr content.compiledFrom.compilerVersion
      (textOr row.compilerVersion "unknown") }

end Times

/-- The check constraints of the table, and the range of its version column. -/
def Storable (row : RegistryRow Body) : Prop :=
  row.status ∈ ["active", "deprecated", "disabled"].map String.toList ∧
    (row.dataObjectId.isSome ∨ row.datasetId.isSome ∨ row.dataProductId.isSome) ∧
    row.validationArtifactVersion < 2 ^ 31

instance (row : RegistryRow Body) : Decidable (Storable row) :=
  inferInstanceAs (Decidable (_ ∧ _ ∧ _))

namespace ArtifactTables

/-- The row of an id and a version. -/
def find? (tables : ArtifactTables Body) (key : Text × ℤ) : Option (RegistryRow Body) :=
  Keyed.find? RegistryRow.key tables.rows key

def historyRow (row : RegistryRow Body) (fromStatus : Option Text) (toStatus : Text)
    (changedBy reason : Option Text) (now : Instant) : ArtifactStatusHistory :=
  ⟨row.validationArtifactId, row.validationArtifactVersion, fromStatus, toStatus, changedBy, now,
    reason⟩

variable [PyDatetime] (hashPayload : EnvelopePayload Body → Text) (localToUtc : ℤ → ℤ)

def returned (row : RegistryRow Body) : EnvelopePayload Body × Text :=
  (buildEnvelope row, hashPayload (buildEnvelope row))

/-- `save_artifact`. A transaction that breaks a constraint changes nothing. -/
def save (command : SaveCommand Body) (tables : ArtifactTables Body) :
    Except TableError (EnvelopePayload Body × Text) × ArtifactTables Body :=
  match tables.find? (Text.strip command.envelope.id, command.envelope.version) with
  | none =>
    let row := insertedRow localToUtc command
    if Storable row then
      (.ok (returned hashPayload row), {
        rows := tables.rows ++ [row]
        history := tables.history ++
          [historyRow row none command.status command.savedBy none command.now] })
    else (.error .integrityError, tables)
  | some row =>
    let existingHash := hashPayload (buildEnvelope row)
    if existingHash ≠ hashPayload command.payload ∧
        command.expectedExistingHash ≠ some existingHash then
      (.error (.valueError ("Validation artifact overwrite conflict: " ++
        "expected hash does not match current artifact")), tables)
    else
      let row' := overwrittenRow localToUtc command row
      if Storable row' then
        (.ok (returned hashPayload row'), {
          rows := Keyed.replace RegistryRow.key row' tables.rows
          history := if row.status = command.status then tables.history
            else tables.history ++ [historyRow row' (statusOrNone row.status) command.status
              command.savedBy none command.now] })
      else (.error .integrityError, tables)

/-- The row that `patch_artifact_status` changes: the one of a version, or of the highest version. -/
def patchTarget (command : PatchCommand) (tables : ArtifactTables Body) :
    Option (RegistryRow Body) :=
  match command.artifactVersion with
  | some version => tables.find? (command.artifactId, version)
  | none => Keyed.highest? RegistryRow.validationArtifactVersion
    (tables.rows.filter fun row => row.validationArtifactId = command.artifactId)

/-- `patch_artifact_status`. -/
def patch (command : PatchCommand) (tables : ArtifactTables Body) : ArtifactTables Body :=
  match tables.patchTarget command with
  | none => tables
  | some row =>
    let row' := { row with status := command.newStatus }
    if Storable row' then {
      rows := Keyed.replace RegistryRow.key row' tables.rows
      history := tables.history ++ [historyRow row (statusOrNone row.status) command.newStatus
        command.changedBy command.reason command.now] }
    else tables

end ArtifactTables

end Postgres

end Artifacts

end DqMadeEasy
