import DqMadeEasy.Compiler.Compile
import DqMadeEasy.Gx.Lowerable
import DqMadeEasy.Rules.Direct
import DqMadeEasy.Rules.Generate

/-!
# Publishing a rule

`_build_gx_artifact_envelope_from_compiler` turns a rule, its compiled expression and a publish
request into an envelope. The execution contract is resolved first: the check types that compare
two objects look both of them up in the catalog, and need one workspace for the two. Then the
expectations are built with the compiled expression, and last the scope of the request is
checked.

The content of the envelope that no later step reads (suite names, traceability, hints) is left
out.
-/

namespace DqMadeEasy

/-- What a publish request says about the target. -/
structure PublishRequest where
  dataObjectId : Option Text := none
  datasetId : Option Text := none
  dataProductId : Option Text := none
  dataObjectVersionIds : List Text := []
  deriving DecidableEq

/-- A data object version of the catalog. -/
structure CatalogVersion where
  id : Text
  dataObjectId : Text

/-- A data object of the catalog. -/
structure CatalogObject where
  id : Text
  datasetId : Text

/-- A data set of the catalog. -/
structure CatalogDataSet where
  id : Text
  workspaceId : Text

/-- The data catalog. -/
structure Catalog where
  versions : List CatalogVersion
  objects : List CatalogObject
  dataSets : List CatalogDataSet

/-- `CatalogSourceTarget`. -/
structure CatalogSourceTarget where
  dataObjectId : Text
  dataObjectVersionId : Text
  datasetId : Option Text
  workspaceId : Text
  deriving DecidableEq

/-- `JoinKeyPair`. -/
structure JoinKeyPair where
  leftAttribute : Text
  rightAttribute : Text
  deriving DecidableEq

/-- The execution contract: one object, or two joined ones. -/
inductive ExecutionContract where
  | singleObject
  | joinPair (outputLocation joinType : Text) (joinKeys : List JoinKeyPair)
      (leftSource rightSource : CatalogSourceTarget)
  deriving DecidableEq

/-- The errors of publishing: an HTTP error, a `ValueError`, or an expectation that cannot be
built. -/
inductive PublishError where
  | http (status : ℕ) (detail : String)
  | value (message : String)
  | build (error : GxExpectationBuildError)
  deriving DecidableEq

/-- Where the service is deployed, and the suite that is published. -/
structure PublishTarget where
  catalog : Option Catalog
  /-- `DQ_GX_JOIN_PAIR_LANDING_ZONE_BUCKET_PREFIX`, or its default. -/
  bucketPrefix : Text := "dq-landing-zone-"
  suiteId : Text
  suiteVersion : ℕ

/-- The published envelope. -/
structure Envelope where
  executionContract : ExecutionContract
  dataObjectVersionIds : List Text
  expectations : List Gx.Expectation
  deriving DecidableEq

namespace Publish

/-- `str(value or "").strip()` of an optional text. -/
def stripped (value : Option Text) : Text := (value.getD []).strip

def joinPairError {α : Type} (message : String) : Except PublishError α :=
  .error (.http 400 ("GX join-pair " ++ message))

/-- `_resolve_catalog_source_target_entity`. -/
def resolveCatalogSourceTarget (catalog : Catalog) (versionId : Text) :
    Except PublishError CatalogSourceTarget :=
  let id := versionId.strip
  if id = [] then joinPairError "execution requires a data object version id"
  else
    match catalog.versions.find? (·.id = id) with
    | none =>
      joinPairError ("execution could not resolve data object version '" ++ String.ofList id ++ "'")
    | some version =>
      let objectId := version.dataObjectId.strip
      if objectId = [] then
        joinPairError
          ("execution could not resolve data object for version '" ++ String.ofList id ++ "'")
      else
        let dataSetId :=
          ((catalog.objects.find? (·.id = objectId)).map fun o => o.datasetId.strip).getD []
        let workspaceId :=
          if dataSetId = [] then []
          else
            ((catalog.dataSets.find? (·.id = dataSetId)).map fun d => d.workspaceId.strip).getD []
        if workspaceId = [] then
          joinPairError
            ("execution could not resolve workspace for version '" ++ String.ofList id ++ "'")
        else
          .ok ⟨objectId, id, if dataSetId = [] then none else some dataSetId, workspaceId⟩

/-- The join keys of a check type, stripped. -/
def joinKeyPairs : CheckParams → List JoinKeyPair
  | .referentialIntegrity p => [⟨p.attributeName.strip, p.refAttribute.strip⟩]
  | .correct p => p.joinKeys.map pair
  | .reconcile p => p.joinKeys.map pair
  | .transferMatch p => p.joinKeys.map pair
  | .joinConsistency p => p.joinKeys.map pair
  | _ => []
where
  /-- `JoinKeyPair.from_payload`. -/
  pair (item : JoinKey) : JoinKeyPair := ⟨item.leftAttribute.strip, item.rightAttribute.strip⟩

/-- The versions on the two sides of a join, and the join type. -/
def joinVersions (params : CheckParams) (primaryVersionId : Text) : Text × Text × Text :=
  match params with
  | .referentialIntegrity p => (primaryVersionId, p.refDataObjectVersionId.strip, "left")
  | .correct p =>
    (p.sourceDataObjectVersionId.strip, p.referenceDataObjectVersionId.strip, "inner")
  | .reconcile p =>
    (p.leftDataObjectVersionId.strip, p.rightDataObjectVersionId.strip, "inner")
  | .transferMatch p =>
    (p.leftDataObjectVersionId.strip, p.rightDataObjectVersionId.strip, "inner")
  | .joinConsistency p =>
    (p.leftDataObjectVersionId.strip, p.rightDataObjectVersionId.strip, "inner")
  | _ => ([], [], "inner")

/-- `resolve_join_pair_sources_for_rule`. -/
def resolveJoinPairSources (params : CheckParams) (catalog : Catalog) (primaryVersionId : Text) :
    Except PublishError (CatalogSourceTarget × CatalogSourceTarget × Text) :=
  let (left, right, joinType) := joinVersions params primaryVersionId
  if left = [] ∨ right = [] then
    joinPairError ("execution could not resolve source versions for check type '" ++
      params.typeName ++ "'")
  else do
    let leftSource ← resolveCatalogSourceTarget catalog left
    let rightSource ← resolveCatalogSourceTarget catalog right
    if leftSource.workspaceId ≠ rightSource.workspaceId then
      joinPairError "publication requires both sources to belong to the same workspace"
    else .ok (leftSource, rightSource, joinType)

/-- Runs of `-` become one. -/
def collapseDashes : Text → Text
  | [] => []
  | c :: cs => if c = '-' ∧ cs.head? = some '-' then collapseDashes cs else c :: collapseDashes cs

/-- The characters of a bucket name; every other one becomes `-`. -/
def bucketChar (c : Char) : Char :=
  if c.isLower || c.isDigit || c == '-' then c else '-'

def bucketSegment (lowered : Text) : Text :=
  let dashed := collapseDashes (lowered.map bucketChar)
  ((dashed.dropWhile (· == '-')).reverse.dropWhile (· == '-')).reverse

/-- `normalize_resolved_data_object_version_ids`. -/
def resolvedVersionIds (ids : List Text) : List Text :=
  Direct.distinct ((ids.map Text.strip).filter fun id => !id.isEmpty)

variable [PyRuntime]

/-- `build_join_pair_output_location`. -/
def joinPairOutputLocation (target : PublishTarget) (workspaceId : Text) :
    Except PublishError Text :=
  let bucketPrefix := bucketSegment (PyRuntime.lower target.bucketPrefix.strip)
  let suffix := bucketSegment (PyRuntime.lower workspaceId.strip)
  if bucketPrefix = [] then
    .error (.http 503
      "DQ_GX_JOIN_PAIR_LANDING_ZONE_BUCKET_PREFIX resolved to an invalid bucket prefix")
  else if suffix = [] then
    joinPairError "publication requires a non-empty workspace bucket suffix"
  else
    .ok ("s3://" ++ bucketPrefix ++ '-' :: suffix ++ "/gx/join-pairs/suite_id=" ++
      target.suiteId ++ "/suite_version=" ++ PyValue.toText (.int target.suiteVersion) ++
      "/format=parquet")

/-- `build_execution_contract_for_rule`: the contract and the resolved version ids. -/
def buildExecutionContract (params : CheckParams) (request : PublishRequest)
    (target : PublishTarget) : Except PublishError (ExecutionContract × List Text) :=
  if !params.isJoinPair then
    .ok (.singleObject, resolvedVersionIds request.dataObjectVersionIds)
  else
    match target.catalog, (request.dataObjectVersionIds.head?).filter fun id => !id.isEmpty with
    | none, _ =>
      .error (.http 503 "data-catalog is unavailable for GX join-pair publication")
    | some _, none => joinPairError "publication requires a primary data_object_version_id"
    | some catalog, some primary => do
      let keys := joinKeyPairs params
      if keys.isEmpty || keys.any fun key => key.leftAttribute.isEmpty || key.rightAttribute.isEmpty
      then
        joinPairError ("publication requires non-empty join keys for check type '" ++
          params.typeName ++ "'")
      else do
        let (leftSource, rightSource, joinType) ← resolveJoinPairSources params catalog primary
        let location ← joinPairOutputLocation target leftSource.workspaceId
        .ok (.joinPair location joinType keys leftSource rightSource,
          resolvedVersionIds (request.dataObjectVersionIds ++
            [leftSource.dataObjectVersionId, rightSource.dataObjectVersionId]))

/-- `_build_gx_artifact_envelope_from_compiler` for a rule with a check type. -/
def buildEnvelope (params : CheckParams) (intermediateModel : FilterPayload)
    (request : PublishRequest) (target : PublishTarget) (tags : Gx.Meta) :
    Except PublishError Envelope := do
  let (contract, versionIds) ← buildExecutionContract params request target
  let expectations ←
    (buildExpectationsForCheckType params (some intermediateModel) tags).mapError .build
  if stripped request.dataObjectId = [] ∧ stripped request.datasetId = [] ∧
      stripped request.dataProductId = [] then
    .error (.value "GX suite envelope is invalid")
  else if (versionIds.map Text.strip).all List.isEmpty then
    .error (.value "GX suite envelope is invalid")
  else .ok ⟨contract, (versionIds.map Text.strip).filter (!·.isEmpty), expectations⟩

def publishRule (params : CheckParams) (joinError : Option String) (request : PublishRequest)
    (target : PublishTarget) (tags : Gx.Meta) : Except PublishError Envelope := do
  let text ← (generateExpressionFromCheckType params).mapError fun error => .value error.message
  buildEnvelope params (compileRuleToIntermediateModel text joinError).filter request target tags

/-! ### When a rule can be published -/

/-- The request can be served: the execution contract resolves, a scope is named, and some data
object version remains. -/
def RequestServed (params : CheckParams) (request : PublishRequest) (target : PublishTarget) :
    Prop :=
  ∃ contract versionIds, buildExecutionContract params request target = .ok (contract, versionIds) ∧
    (stripped request.dataObjectId ≠ [] ∨ stripped request.datasetId ≠ [] ∨
      stripped request.dataProductId ≠ []) ∧
    ∃ id ∈ versionIds, id.strip ≠ []

/-- The compiled text has a row condition: it parses, and its tree is passed through or
lowered. -/
def Attachable (text : Text) : Prop :=
  ∃ ast, parseExpression (normalizeExpression text) = .ok ast ∧
    (Gx.requiresPassThrough ast = true ∨ Gx.lowers ast = true)

theorem buildEnvelope_isOk (params : CheckParams) (payload : FilterPayload)
    (request : PublishRequest) (target : PublishTarget) (tags : Gx.Meta) :
    (∃ envelope, buildEnvelope params payload request target tags = .ok envelope) ↔
      RequestServed params request target ∧
        ∃ suite, buildExpectationsForCheckType params (some payload) tags = .ok suite := by
  rw [buildEnvelope, RequestServed]
  cases buildExecutionContract params request target with
  | error e => simp
  | ok resolved =>
    obtain ⟨contract, versionIds⟩ := resolved
    cases buildExpectationsForCheckType params (some payload) tags with
    | error e => simp [Except.mapError]
    | ok suite =>
      have hversions : (versionIds.map Text.strip).all List.isEmpty = true ↔
          ¬∃ id ∈ versionIds, id.strip ≠ [] := by simp
      simp only [Except.mapError, ok_bind]
      by_cases hscope : stripped request.dataObjectId = [] ∧ stripped request.datasetId = [] ∧
          stripped request.dataProductId = []
      · simp [hscope]
      · by_cases hids : ∃ id ∈ versionIds, id.strip ≠ []
        · rw [if_neg hscope, if_neg (by rw [hversions]; exact not_not.mpr hids)]
          simp only [not_and_or] at hscope
          simpa [hscope] using hids
        · rw [if_neg hscope, if_pos (hversions.mpr hids)]
          simp [hids]

/-- A compiled text has a row condition exactly when it is attachable. -/
theorem rowCondition_of_compiled (text : Text) (joinError : Option String) :
    (∃ artifact, Gx.buildRowCondition (compileRuleToIntermediateModel text joinError).filter =
      .ok artifact) ↔ Attachable text := by
  rw [Gx.buildRowCondition_isOk]
  constructor
  · rintro ⟨ast, hast, hcases⟩
    refine ⟨ast, (compile_of_ast hast).1, ?_⟩
    split at hcases
    · exact .inl ‹_›
    · exact .inr hcases
  · rintro ⟨ast, hparse, hcases⟩
    have hast := compile_ast_of_parse joinError hparse
    refine ⟨ast, hast, ?_⟩
    split
    · rw [(compile_of_ast hast).2.2.2]
      intro hempty
      rw [hempty] at hparse
      cases hparse
    · rename_i hpass
      exact hcases.resolve_left hpass

theorem attachRowConditions_isOk (suite : List Gx.Expectation) (payload : FilterPayload) :
    (∃ attached, Gx.attachRowConditions suite (some payload) = .ok attached) ↔
      ∃ artifact, Gx.buildRowCondition payload = .ok artifact := by
  rw [Gx.attachRowConditions]
  cases Gx.buildRowCondition payload <;> simp

/-- A rule whose expression can be generated and whose expectations can be built is published
exactly when the request can be served and its row condition, where one is attached, exists. -/
theorem publishes_iff (params : CheckParams) (text : Text) (direct : List Gx.Expectation)
    (joinError : Option String) (request : PublishRequest) (target : PublishTarget)
    (tags : Gx.Meta) (hgenerate : generateExpressionFromCheckType params = .ok text)
    (hdirect : buildExpectationsForCheckType params none tags = .ok direct) :
    (∃ envelope, publishRule params joinError request target tags = .ok envelope) ↔
      RequestServed params request target ∧
        (params.isConditionalAllowlist = true ∨ Attachable text) := by
  rw [publishRule, hgenerate, Except.mapError, ok_bind, buildEnvelope_isOk]
  apply and_congr_right
  intro _
  obtain ⟨suite, hsuite, -⟩ := ok_of_bind hdirect
  rw [buildExpectationsForCheckType, hsuite, ok_bind]
  split
  · rename_i hallowlist
    simp [hallowlist]
  · rename_i hallowlist
    rw [attachRowConditions_isOk, rowCondition_of_compiled]
    simp [hallowlist]

end Publish

section Example

open Publish

local instance sampleRuntimePublish : PyRuntime :=
  PyRuntime.ascii (fun q => .finite q) (fun _ => [])

def sampleRequest : PublishRequest where
  dataObjectId := some "orders"
  dataObjectVersionIds := ["orders-v1"]

def sampleTarget : PublishTarget where
  catalog := none
  suiteId := "gx_rule"
  suiteVersion := 1

def atLeastOneRow : CheckParams := .rowCount { threshold := some 1 }

/-- The attribute `a` is at least one. -/
def atLeastOne : CheckParams := .range { attributeName := ['a'], minValue := .int 1 }

theorem requestServed_of_single {params : CheckParams} (h : params.isJoinPair = false) :
    RequestServed params sampleRequest sampleTarget :=
  ⟨.singleObject, ["orders-v1"], by rw [buildExecutionContract, h]; rfl, by decide,
    by decide⟩

/-- A row-count rule is generated and built, and cannot be published: its expression `1 = 1` is
not in the grammar. -/
theorem publish_refuses_rowCount :
    ∃ text direct, generateExpressionFromCheckType atLeastOneRow = .ok text ∧
      buildExpectationsForCheckType atLeastOneRow none {} = .ok direct ∧
      RequestServed atLeastOneRow sampleRequest sampleTarget ∧
      publishRule atLeastOneRow none sampleRequest sampleTarget {} =
        .error (.build ⟨"Intermediate model is missing filter AST"⟩) :=
  ⟨"1 = 1", [{ kind := .rowCount { minValue := .int 1 } }], by decide +kernel,
    by decide +kernel, requestServed_of_single rfl, by decide +kernel⟩

/-- A range rule is published. -/
theorem publishes_range :
    ∃ envelope, publishRule atLeastOne none sampleRequest sampleTarget {} = .ok envelope :=
  (publishes_iff atLeastOne "a >= 1" [{ kind := .between false ['a'] { minValue := .int 1 } }]
    none sampleRequest sampleTarget {} (by decide +kernel) (by decide +kernel)).mpr
    ⟨requestServed_of_single rfl, .inr ⟨.predicate ⟨['a'], .compare .ge ⟨['1'], .number⟩⟩,
      by decide +kernel, .inr (by decide +kernel)⟩⟩

end Example

end DqMadeEasy
