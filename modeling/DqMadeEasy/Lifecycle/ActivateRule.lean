import DqMadeEasy.Artifacts.Registry
import DqMadeEasy.Lifecycle.InMemory
import DqMadeEasy.Logic.Effect
import DqMadeEasy.Rules.Publish

/-!
# The activation use case

`activate_rule` checks the request, writes the new status, and only then compiles the rule and
publishes what it compiled to. Its three repositories are the in-memory ones. What it is given as an
argument, and what its publication steps compute without a repository that they write to, are
parameters: the reading of the time, the scope resolver, the reading of a rule DSL, the compiler,
the store of compiler artifacts and the builders of the artifacts.
-/

namespace DqMadeEasy

namespace Lifecycle

open Artifacts InMemory

/-- What the use case raises: an HTTP error, an error of a repository, or any other error of a
compiler or a builder. -/
inductive ActivationError where
  | http (status : ℕ) (detail : Json)
  | repository (error : RepositoryError)
  | other (name : String)

/-- `isinstance(exc, LookupError)`. -/
def ActivationError.isLookupError : ActivationError → Bool
  | .repository (.lookupError _) => true
  | .repository (.keyError _) => true
  | .repository .indexError => true
  | _ => false

/-- The request to publish the activated rule. -/
structure GxSuiteAutoPublishRequest extends PublishRequest where
  suiteVersion : ℤ := 1
  primaryKeyFields : List Text := []
  businessKeyFields : List Text := []

/-- `ActivateRuleCommand`. -/
structure ActivateRuleCommand where
  ruleId : Text
  effectiveAt : Option Text := none
  grantedScopes : List Text := []
  autoPublishRequest : Option GxSuiteAutoPublishRequest := none
  savedBy : Option Text := none

/-- What an artifact is built from, besides its id and version. -/
structure BuildInput where
  ruleId : Text
  ruleVersionId : Text
  rule : StoredRule
  intermediateModel : Dict
  request : GxSuiteAutoPublishRequest
  savedBy : Option Text

/-- The parameters of the use case. -/
structure ActivationServices (Ir Suite Artifact Compiled : Type) where
  /-- `parse_effective_at_param`. -/
  parseEffectiveAt : Option Text → Except ActivationError (Option Instant)
  hasRequiredScope : List Text → List Text → Bool
  /-- The semantic model of a DSL document of version 2.0.0, if it is valid. -/
  semanticIr : Dict → Option Ir
  preferredEngines : Ir → List Text
  ruleKind : Ir → Text
  /-- `compile_rule_to_intermediate_model`. -/
  compileRule : Text → Text → Text → Except ActivationError Dict
  /-- `upsert_active_compiler_artifact`, with the version and what is compiled. -/
  upsertCompilerArtifact : Text → Text → Dict → Compiled → Except ActivationError Unit × Compiled
  /-- `_build_gx_artifact_envelope_from_compiler`. -/
  buildSuite : BuildInput → Text → ℤ → Except ActivationError Suite
  /-- `build_validation_artifact_envelope_from_gx_artifact`. -/
  artifactOfSuite : Suite → Except ActivationError Artifact
  /-- `build_sodacl_artifact_envelope_from_rule_dsl_v2`. -/
  buildSodacl : Ir → BuildInput → Text → ℤ → Except ActivationError Artifact
  hashSuite : StoredArtifact Suite → Text
  hashArtifact : StoredArtifact Artifact → Text

/-- The repositories. -/
structure Stores (Suite Artifact Compiled : Type) where
  rules : Repository
  suites : Registry Suite
  artifacts : Registry Artifact
  compiled : Compiled

section UseCase

variable [PyRuntime] [PyNumerals] {Ir Suite Artifact Compiled : Type}
  (S : ActivationServices Ir Suite Artifact Compiled)

/-! ### Target engine -/

/-- The error of a rule DSL that cannot be published. -/
def loweringUnsupported (message : String) (ruleKind : Json) : ActivationError :=
  .http 422 (.dict (Dict.ofEntries [
    ("error", .text "rule_dsl_lowering_unsupported"),
    ("message", .text message),
    ("schema_version", .text "2.0.0"),
    ("rule_kind", ruleKind)]))

/-- `resolve_rule_autopublish_target_engine` of a rule with these DSL columns. -/
def resolveTargetEngine (dsl : Option Dict) : Except ActivationError (Text × Option Ir) :=
  match dsl with
  | none => .ok ("gx", none)
  | some raw =>
    if Json.strippedText ((Dict.get raw "schema_version").orElse (Dict.get raw "schemaVersion")) ≠
        "2.0.0" then .ok ("gx", none)
    else
      match S.semanticIr raw with
      | none => .error (loweringUnsupported
          "DQ DSL 2.0.0 rule DSL is invalid and cannot be auto-published" .null)
      | some ir =>
        match (S.preferredEngines ir).filterMap fun value =>
          if Text.strip value = [] then none else some (PyRuntime.lower (Text.strip value)) with
        | [] => .error (loweringUnsupported
            "DQ DSL 2.0.0 auto-publish requires at least one preferred engine"
            (.scalar (.str (S.ruleKind ir))))
        | engine :: _ =>
          if engine = "gx" ∨ engine = "sodacl" then .ok (engine, some ir)
          else .error (loweringUnsupported
            "DQ DSL 2.0.0 auto-publish currently supports only target engines 'gx' and 'sodacl'"
            (.scalar (.str (S.ruleKind ir))))

/-! ### Publication -/

/-- The scope and the versions that a publication needs; without them it is skipped. -/
def GxSuiteAutoPublishRequest.publishes (request : GxSuiteAutoPublishRequest) : Bool :=
  (request.dataObjectId.getD [] ≠ [] || request.datasetId.getD [] ≠ [] ||
    request.dataProductId.getD [] ≠ []) && !request.dataObjectVersionIds.isEmpty

/-- The statuses and authorship of a published artifact. -/
def savePublished {Content : Type} (hashPayload : StoredArtifact Content → Text) (now : Instant)
    (envelope : ArtifactEnvelope Content) (savedBy : Option Text) :
    Effect (Registry Content) ActivationError Unit :=
  .ofState fun registry =>
    let outcome := registry.saveArtifact hashPayload now envelope "active" none savedBy
      (some "rule-compiler")
    ((outcome.1.map fun _ => ()).mapError .repository, outcome.2)

/-- `persist_gx_suite_from_compiler`. -/
def persistGxSuite (now : Instant) (input : BuildInput) :
    Effect (Registry Suite) ActivationError Unit := do
  if !input.request.publishes then return
  let suiteId := "gx_" ++ input.ruleId
  let registry ← get
  let suiteVersion := allocateNextArtifactVersion (registry.listArtifactStatusHistory suiteId)
    input.request.suiteVersion
  let suite ← Effect.ofExcept (S.buildSuite input suiteId suiteVersion)
  savePublished S.hashSuite now ⟨suiteId, suiteVersion, suite⟩ input.savedBy

/-- `persist_validation_artifact_from_compiler`. -/
def persistValidationArtifact (now : Instant) (input : BuildInput) :
    Effect (Registry Artifact) ActivationError Unit := do
  if !input.request.publishes then return
  let (engine, semanticIr) ← Effect.ofExcept (resolveTargetEngine S input.rule.details.dsl)
  let registry ← get
  if engine = "sodacl" then
    match semanticIr with
    | none => Effect.raise (.http 500
        (.text "DQ DSL 2.0.0 SodaCL auto-publish produced no semantic IR"))
    | some ir =>
      let artifactId := "sodacl_" ++ input.ruleId
      let artifactVersion := allocateNextArtifactVersion
        (registry.listArtifactStatusHistory artifactId) input.request.suiteVersion
      let artifact ← Effect.ofExcept (S.buildSodacl ir input artifactId artifactVersion)
      savePublished S.hashArtifact now ⟨artifactId, artifactVersion, artifact⟩ input.savedBy
  else
    let suiteId := "gx_" ++ input.ruleId
    let suiteVersion := allocateNextArtifactVersion (registry.listArtifactStatusHistory suiteId)
      input.request.suiteVersion
    let suite ← Effect.ofExcept (S.buildSuite input suiteId suiteVersion)
    let artifact ← Effect.ofExcept (S.artifactOfSuite suite)
    savePublished S.hashArtifact now ⟨suiteId, suiteVersion, artifact⟩ input.savedBy

/-! ### Compilation -/

/-- The id of `resolve_current_rule_version`. -/
def resolveCurrentRuleVersion (r : StoredRule) : Option Text :=
  match r.versions with
  | [] => none
  | row :: _ => if Text.strip row.id = [] then none else some row.id

/-- The version that the artifacts name. -/
def ruleVersionId (r : StoredRule) : Text := (resolveCurrentRuleVersion r).getD "latest"

/-- `(entity.expression or "").strip()`. -/
def StoredRule.strippedExpression (r : StoredRule) : Text := Text.strip r.entity.expression

/-- The intermediate model of a rule with neither an expression nor a check type. -/
def customQueryModel (ruleId ruleVersionId : Text) : Dict :=
  let artifactKey := Json.scalar (.str ("rule::" ++ ruleId ++ "::version::" ++
    ruleVersionId ++ "::custom-query"))
  let id := Json.scalar (.str ruleId)
  let versionId := Json.scalar (.str ruleVersionId)
  let dict (entries : List (String × Json)) : Json :=
    .dict (Dict.ofEntries (entries.map fun entry => (entry.1.toList, entry.2)))
  Json.dictOrEmpty (dict [
    ("artifactKey", artifactKey),
    ("compilerVersion", .text "unknown"),
    ("schemaVersion", .text "1.1.0"),
    ("target", .text "dsl"),
    ("rule", dict [("id", id), ("version_id", versionId)]),
    ("filter", dict [
      ("source", .text ""), ("normalized", .text ""), ("predicates", .list []),
      ("logical_operators", .list []), ("alias_expectations", .list []), ("ast", .null)]),
    ("join", .null),
    ("execution_contract", dict [
      ("engine_target", .text "dq-engine"),
      ("input_format", .text "dq.intermediate-model.v1"),
      ("compatibility_policy", dict [
        ("schema_versioning", .text "semver"),
        ("compiler_versioning", .text "dq-semver"),
        ("supported_schema_series", .text "1.x.x"),
        ("minor_version_backward_compatible", .scalar (.bool true))]),
      ("traceability", dict [
        ("rule_id", id), ("rule_version_id", versionId), ("artifact_key", artifactKey),
        ("compiler_version", .text "unknown"), ("schema_version", .text "1.1.0")]),
      ("required_execution_result_fields", .list
        (["artifactKey", "ruleId", "ruleVersionId", "executionId", "executedAt",
          "resultStatus"].map Json.text))]),
    ("diagnostics", .list []),
    ("compilable", .scalar (.bool true)),
    ("summary", dict [("errors", .int 0), ("warnings", .int 0)])])

def intermediateModelOf (ruleId : Text) (r : StoredRule) : Except ActivationError Dict :=
  if r.strippedExpression = [] ∧ strippedOrNone r.details.checkType = none then
    .ok (customQueryModel ruleId (ruleVersionId r))
  else S.compileRule ruleId (ruleVersionId r) r.strippedExpression

/-- The target engine and the intermediate model of an activated rule. -/
def compileForActivation (ruleId : Text) (r : StoredRule) :
    Except ActivationError (Text × Dict) := do
  let target ← resolveTargetEngine S r.details.dsl
  let model ← intermediateModelOf S ruleId r
  return (target.1, model)

def persistCompilerArtifact (r : StoredRule) (intermediateModel : Dict) :
    Effect Compiled ActivationError Unit :=
  match resolveCurrentRuleVersion r with
  | none => pure ()
  | some id =>
    .ofState (S.upsertCompilerArtifact (Text.strip id) r.strippedExpression intermediateModel)

/-- The same with a `LookupError` passed over. -/
def keepCompilerArtifact (r : StoredRule) (intermediateModel : Dict) :
    Effect Compiled ActivationError Unit :=
  Effect.rescue (persistCompilerArtifact S r intermediateModel) fun error =>
    if error.isLookupError then pure () else Effect.raise error

/-! ### The use case -/

variable {S}

/-- A computation on the store of compiler artifacts. -/
def onCompiled {α : Type} (p : Effect Compiled ActivationError α) :
    Effect (Stores Suite Artifact Compiled) ActivationError α :=
  .ofState fun stores => ((p.run stores.compiled).1,
    { stores with compiled := (p.run stores.compiled).2 })

def onSuites {α : Type} (p : Effect (Registry Suite) ActivationError α) :
    Effect (Stores Suite Artifact Compiled) ActivationError α :=
  .ofState fun stores => ((p.run stores.suites).1, { stores with suites := (p.run stores.suites).2 })

def onArtifacts {α : Type} (p : Effect (Registry Artifact) ActivationError α) :
    Effect (Stores Suite Artifact Compiled) ActivationError α :=
  .ofState fun stores =>
    ((p.run stores.artifacts).1, { stores with artifacts := (p.run stores.artifacts).2 })

variable (S)

/-- What the artifacts of an activated rule are built from. -/
def ActivateRuleCommand.buildInput (command : ActivateRuleCommand) (r : StoredRule)
    (intermediateModel : Dict) (request : GxSuiteAutoPublishRequest) : BuildInput where
  ruleId := command.ruleId
  ruleVersionId := ruleVersionId r
  rule := r
  intermediateModel := intermediateModel
  request := request
  savedBy := command.savedBy

/-- The artifacts of a target engine. -/
def publishArtifacts (now : Instant) (engine : Text) (input : BuildInput) :
    Effect (Stores Suite Artifact Compiled) ActivationError Unit :=
  if engine = "gx" then do
    onSuites (persistGxSuite S now input)
    onArtifacts (persistValidationArtifact S now input)
  else if engine = "sodacl" then onArtifacts (persistValidationArtifact S now input)
  else Effect.raise (loweringUnsupported ("DQ DSL 2.0.0 auto-publish does not yet support " ++
    "target_engine '" ++ String.ofList engine ++ "'.")
    (Dict.get (Json.dictOrEmpty (Dict.get (input.rule.details.dsl.getD []) "rule")) "kind"))

/-- The steps after the new status is written. -/
def publishActivated (now : Instant) (command : ActivateRuleCommand) (r : StoredRule) :
    Effect (Stores Suite Artifact Compiled) ActivationError Unit := do
  let compiled ← Effect.ofExcept (compileForActivation S command.ruleId r)
  onCompiled (keepCompilerArtifact S r compiled.2)
  match command.autoPublishRequest with
  | none => pure ()
  | some request =>
    publishArtifacts S now compiled.1 (command.buildInput r compiled.2 request)

/-- The checks before the new status is written. -/
def checkActivation (overrides : PolicyOverrides) (now : Instant) (command : ActivateRuleCommand)
    (rules : Repository) : Except ActivationError Unit := do
  let effectiveAt ← S.parseEffectiveAt command.effectiveAt
  if effectiveAt.any (now < ·) then
    .error (.http 503 (.dict (Dict.ofEntries [
      ("error", .text "downstream_unavailable"),
      ("service", .text "lifecycle-scheduler"),
      ("message", .text "lifecycle-scheduler is unavailable")])))
  else
    match (rules.listRules none false (some false)).find? fun row => row.id = command.ruleId with
    | none => .error (.http 404 (.scalar (.str
        ("Rule '" ++ command.ruleId ++ "' not found"))))
    | some row =>
      let currentStatus := ruleStatusOf row.removedAt.isSome row.active row.lastApprovalStatus
      let grantedScopes := (command.grantedScopes.map Text.strip).filter (· ≠ [])
      if isTransitionAllowed S.hasRequiredScope overrides .rule currentStatus "activated"
        grantedScopes then .ok ()
      else .error (.http 409 (.scalar (.str ("Transition '" ++ currentStatus ++
        "' -> 'activated' is not allowed"))))

/-- `activate_rule_record`, with its `ValueError` as a conflict. -/
def writeActivation (overrides : PolicyOverrides) (now : Instant) (ruleId : Text) :
    Effect (Stores Suite Artifact Compiled) ActivationError (Option RuleRecord) :=
  .ofState fun stores =>
    let outcome := activateRuleRecord overrides ruleId now stores.rules
    (outcome.1.mapError fun error =>
      match error with
      | .valueError message => .http 409 (.scalar (.str message))
      | other => .repository other, { stores with rules := outcome.2 })

def getRuleById (rules : Repository) (ruleId : Text) : Option StoredRule :=
  (rules.find? ruleId).filter fun r => r.details.removedAt.isNone

def activateRule (overrides : PolicyOverrides) (now : Instant) (command : ActivateRuleCommand) :
    Effect (Stores Suite Artifact Compiled) ActivationError RuleRecord := do
  let before ← get
  Effect.ofExcept (checkActivation S overrides now command before.rules)
  match ← writeActivation overrides now command.ruleId with
  | none => Effect.raise (.http 404 (.scalar (.str
      ("Rule '" ++ command.ruleId ++ "' not found"))))
  | some payload =>
    let after ← get
    match getRuleById after.rules command.ruleId with
    | none => return payload
    | some r =>
      publishActivated S now command r
      return payload

end UseCase

end Lifecycle

end DqMadeEasy
