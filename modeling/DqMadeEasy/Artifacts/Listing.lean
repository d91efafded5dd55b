import Mathlib.Data.Prod.Lex
import DqMadeEasy.Artifacts.GxSuite
import DqMadeEasy.Artifacts.Registry
import DqMadeEasy.Logic.Latest

/-!
# The latest artifacts

Both validation artifact repositories list artifacts with a status by their scope or by a rule. The
filters look at every version of an artifact; of those that pass, the highest one is listed. It is
the highest version with the status exactly where that one passes too.
-/

namespace DqMadeEasy

namespace Artifacts

open Latest

/-- `ValidationArtifactAssignmentScopeEntity`. -/
structure ValidationAssignmentScope where
  dataObjectId : Option Text
  datasetId : Option Text
  dataProductId : Option Text
  deriving DecidableEq

/-- The fields of `ValidationArtifactEnvelopeEntity` besides its id and version and what a save
sets. Those that no repository reads are its body. -/
structure ValidationContent (Body : Type) where
  artifactContractVersion : Text
  engineType : Text
  assignmentScope : ValidationAssignmentScope
  resolvedExecutionScope : ResolvedExecutionScope
  compiledFrom : CompiledFrom
  body : Body

/-- The scope filters of `list_artifacts`. -/
structure ArtifactFilters where
  dataObjectId : Option Text := none
  dataObjectVersionId : Option Text := none
  datasetId : Option Text := none
  dataProductId : Option Text := none

def wanted (filter : Option Text) (test : Text → Bool) : Bool :=
  match filter with
  | none => true
  | some value => value == [] || test value

variable {Body : Type}

/-! ### The in-memory repository -/

namespace Registry

variable {registry : Registry (ValidationContent Body)} {status ruleId : Text}
  {filters : ArtifactFilters} {Content : Type} {items : List (StoredArtifact Content)}

/-- The filters of `list_artifacts`. -/
def passes (filters : ArtifactFilters) (item : StoredArtifact (ValidationContent Body)) : Bool :=
  let scope := item.content.assignmentScope
  let versionIds := item.content.resolvedExecutionScope.dataObjectVersionIds
  wanted filters.dataObjectId (fun id => scope.dataObjectId.getD [] == id) &&
    wanted filters.datasetId (fun id => scope.datasetId.getD [] == id) &&
    wanted filters.dataProductId (fun id => scope.dataProductId.getD [] == id) &&
    wanted filters.dataObjectVersionId (fun id => versionIds.contains id)

def listArtifacts (filters : ArtifactFilters) (status : Text) (latestOnly : Bool)
    (registry : Registry (ValidationContent Body)) :
    List (StoredArtifact (ValidationContent Body)) :=
  let selected := registry.artifacts.filter fun item =>
    decide (item.status = status) && passes filters item
  if latestOnly then (selected.foldl keepLatest []).map Prod.snd else selected

def withStatus (status : Text) (registry : Registry Content) : List (StoredArtifact Content) :=
  registry.artifacts.filter fun item => item.status = status

def HighestVersion (items : List (StoredArtifact Content)) (item : StoredArtifact Content) : Prop :=
  Highest StoredArtifact.id StoredArtifact.version items item

/-- The listing loop is one that keeps the highest version of each id that is not empty. -/
theorem isLatest_keepLatest (items : List (StoredArtifact Content)) :
    IsLatest StoredArtifact.id StoredArtifact.version
      (items.filter fun item => decide (item.id ≠ []))
      ((items.foldl keepLatest []).map Prod.snd) := by
  have hloop : items.foldl keepLatest [] =
      (items.filter fun item => decide (item.id ≠ [])).foldl
        (keepBest StoredArtifact.id fun b a => decide (b.version < a.version)) [] := by
    rw [List.foldl_filter]
    congr 1
    funext latest item
    rw [keepLatest, keepBest]
    by_cases hempty : item.id = []
    · rw [if_pos hempty, if_neg (by rw [decide_eq_true_eq]; exact not_not_intro hempty)]
    · rw [if_neg hempty, if_pos (decide_eq_true hempty)]
      cases Assoc.find? latest item.id with
      | none => rfl
      | some existing => simp only [decide_eq_true_eq]
  rw [hloop]
  apply isLatest_foldl
  refine List.pairwise_of_forall fun b a _ => ⟨?_, ?_⟩
  · intro hlt
    exact (of_decide_eq_true hlt).le
  · intro hnot
    exact not_lt.mp (of_decide_eq_false hnot)

def HighestPasses (items : List (StoredArtifact Content)) (p : StoredArtifact Content → Bool) :
    Prop :=
  ∀ item ∈ items, p item = true → item.id ≠ [] →
    ∃ other ∈ items, p other = true ∧ other.id = item.id ∧ HighestVersion items other

/-- What is listed of the versions that pass is the highest of all exactly where the highest one
passes. -/
theorem latest_highest_iff (items : List (StoredArtifact Content))
    (p : StoredArtifact Content → Bool) :
    (∀ item ∈ ((items.filter p).foldl keepLatest []).map Prod.snd, HighestVersion items item) ↔
      HighestPasses items p := by
  refine (isLatest_keepLatest (items.filter p)).highest_iff.trans ?_
  have hmem : ∀ item, item ∈ (items.filter p).filter (fun item => decide (item.id ≠ [])) ↔
      item ∈ items ∧ p item = true ∧ item.id ≠ [] := by
    intro item
    rw [List.mem_filter, List.mem_filter, decide_eq_true_eq, and_assoc]
  constructor
  · intro h item hitem hpass hid
    obtain ⟨other, hother, hsame, hhighest⟩ := h item ((hmem item).mpr ⟨hitem, hpass, hid⟩)
    obtain ⟨hmember, hpass', -⟩ := (hmem other).mp hother
    exact ⟨other, hmember, hpass', hsame, hhighest⟩
  · intro h item hitem
    obtain ⟨hmember, hpass, hid⟩ := (hmem item).mp hitem
    obtain ⟨other, hother, hpass', hsame, hhighest⟩ := h item hmember hpass hid
    exact ⟨other, (hmem other).mpr ⟨hother, hpass', hsame ▸ hid⟩, hsame, hhighest⟩

/-- The latest artifacts of `list_artifacts` are the highest versions. -/
theorem listArtifacts_highest_iff (filters : ArtifactFilters) (status : Text)
    (registry : Registry (ValidationContent Body)) :
    (∀ item ∈ registry.listArtifacts filters status true,
        HighestVersion (registry.withStatus status) item) ↔
      HighestPasses (registry.withStatus status) (passes filters) := by
  rw [← latest_highest_iff, withStatus, List.filter_filter]
  simp only [listArtifacts, if_pos, Bool.and_comm]

/-- The filter of `list_artifacts_for_rule`. A blank rule passes no artifact. -/
def passesRule (ruleIds : Content → List Text) (ruleId : Text) (item : StoredArtifact Content) :
    Bool :=
  decide (Text.strip ruleId ≠ []) && decide (Text.strip ruleId ∈ ruleIds item.content)

/-- The latest artifacts of `list_artifacts_for_rule` are the highest versions. -/
theorem listArtifactsForRule_highest_iff (ruleIds : Content → List Text) (ruleId status : Text)
    (registry : Registry Content) :
    (∀ item ∈ registry.listArtifactsForRule ruleIds ruleId status,
        HighestVersion (registry.withStatus status) item) ↔
      HighestPasses (registry.withStatus status) (passesRule ruleIds ruleId) := by
  rw [listArtifactsForRule]
  by_cases hblank : Text.strip ruleId = []
  · rw [if_pos hblank]
    refine iff_of_true nofun ?_
    intro item _ hpass
    rw [passesRule, decide_eq_false (not_not_intro hblank)] at hpass
    cases hpass
  · rw [if_neg hblank, ← latest_highest_iff, withStatus, List.filter_filter]
    simp only [passesRule, hblank, not_false_eq_true, ne_eq, decide_true, Bool.true_and,
      Bool.and_comm]

end Registry

/-! ### The table -/

namespace Postgres

/-- `ValidationArtifactRegistryRow`, where a time is a number. The envelope is the dump that was
saved. -/
structure RegistryRow (Body : Type) where
  validationArtifactId : Text
  validationArtifactVersion : ℤ
  artifactContractVersion : Text
  engineType : Text
  status : Text
  dataObjectId : Option Text
  datasetId : Option Text
  dataProductId : Option Text
  resolvedDataObjectVersionIds : List Text
  compiledRuleIds : List Text
  compilerVersion : Text
  generatedAt : ℤ
  envelopeJson : ValidationContent Body
  savedBy : Option Text
  sourcePipeline : Option Text

variable {κ : Type} [LinearOrder κ] (collate : Text → κ)

/-- `order_by(validation_artifact_id.asc(), validation_artifact_version.desc())`, where the
collation is a parameter. -/
def ordered (rows : List (RegistryRow Body)) : List (RegistryRow Body) :=
  Sorted.sortOn (fun row => toLex (collate row.validationArtifactId,
    OrderDual.toDual row.validationArtifactVersion)) rows

/-- The rows with one of an id that is new. -/
def keepFirst (latest : List (Text × RegistryRow Body)) (row : RegistryRow Body) :
    List (Text × RegistryRow Body) :=
  match Assoc.find? latest row.validationArtifactId with
  | none => Assoc.update row.validationArtifactId (fun _ => row) latest
  | some _ => latest

/-- `list(latest_by_artifact.values())`. -/
def latestRows (rows : List (RegistryRow Body)) : List (RegistryRow Body) :=
  (rows.foldl keepFirst []).map Prod.snd

/-- The filters of `list_artifacts`. -/
def passes (filters : ArtifactFilters) (row : RegistryRow Body) : Bool :=
  wanted filters.dataObjectId (fun id => row.dataObjectId == some id) &&
    wanted filters.datasetId (fun id => row.datasetId == some id) &&
    wanted filters.dataProductId (fun id => row.dataProductId == some id) &&
    wanted filters.dataObjectVersionId (fun id => row.resolvedDataObjectVersionIds.contains id)

/-- The rows that `list_artifacts` renders. -/
def listArtifacts (filters : ArtifactFilters) (status : Text) (latestOnly : Bool)
    (rows : List (RegistryRow Body)) : List (RegistryRow Body) :=
  let selected := ordered collate (rows.filter fun row =>
    decide (row.status = status) && passes filters row)
  if latestOnly then latestRows selected else selected

/-- The rows that `list_artifacts_for_rule` renders. -/
def listArtifactsForRule (ruleId status : Text) (latestOnly : Bool)
    (rows : List (RegistryRow Body)) : List (RegistryRow Body) :=
  if Text.strip ruleId = [] then []
  else
    let selected := ordered collate (rows.filter fun row =>
      decide (row.status = status) && decide (Text.strip ruleId ∈ row.compiledRuleIds))
    if latestOnly then latestRows selected else selected

def withStatus (status : Text) (rows : List (RegistryRow Body)) : List (RegistryRow Body) :=
  rows.filter fun row => row.status = status

def HighestVersion (rows : List (RegistryRow Body)) (row : RegistryRow Body) : Prop :=
  Highest RegistryRow.validationArtifactId RegistryRow.validationArtifactVersion rows row

/-- In the order of the listing the first row of an id is the highest one. -/
theorem isLatest_latestRows (rows : List (RegistryRow Body)) :
    IsLatest RegistryRow.validationArtifactId RegistryRow.validationArtifactVersion
      (ordered collate rows) (latestRows (ordered collate rows)) := by
  have hloop : (keepFirst : List (Text × RegistryRow Body) → RegistryRow Body → _) =
      keepBest RegistryRow.validationArtifactId fun _ _ => false := by
    funext latest row
    rw [keepFirst, keepBest]
    cases Assoc.find? latest row.validationArtifactId with
    | none => rfl
    | some first => rfl
  rw [latestRows, hloop]
  apply isLatest_foldl
  refine (Sorted.pairwise_sortOn _ rows).imp fun hle hid => ⟨(by cases ·), fun _ => ?_⟩
  rw [Prod.Lex.toLex_le_toLex, hid] at hle
  obtain hlt | ⟨-, hle⟩ := hle
  · exact absurd hlt (lt_irrefl _)
  · exact OrderDual.toDual_le_toDual.mp hle

def HighestPasses (rows : List (RegistryRow Body)) (p : RegistryRow Body → Bool) : Prop :=
  ∀ row ∈ rows, p row = true → ∃ other ∈ rows, p other = true ∧
    other.validationArtifactId = row.validationArtifactId ∧ HighestVersion rows other

/-- What is listed of the rows that pass is the highest of all exactly where the highest one
passes. -/
theorem latest_highest_iff (rows : List (RegistryRow Body)) (p : RegistryRow Body → Bool) :
    (∀ row ∈ latestRows (ordered collate (rows.filter p)), HighestVersion rows row) ↔
      HighestPasses rows p := by
  refine (isLatest_latestRows collate (rows.filter p)).highest_iff.trans ?_
  have hmem : ∀ row, row ∈ ordered collate (rows.filter p) ↔ row ∈ rows ∧ p row = true := by
    intro row
    rw [ordered, Sorted.mem_sortOn, List.mem_filter]
  constructor
  · intro h row hrow hpass
    obtain ⟨other, hother, hsame, hhighest⟩ := h row ((hmem row).mpr ⟨hrow, hpass⟩)
    obtain ⟨hmember, hpass'⟩ := (hmem other).mp hother
    exact ⟨other, hmember, hpass', hsame, hhighest⟩
  · intro h row hrow
    obtain ⟨hmember, hpass⟩ := (hmem row).mp hrow
    obtain ⟨other, hother, hpass', hsame, hhighest⟩ := h row hmember hpass
    exact ⟨other, (hmem other).mpr ⟨hother, hpass'⟩, hsame, hhighest⟩

/-- The latest artifacts of `list_artifacts` are the highest versions. -/
theorem listArtifacts_highest_iff (filters : ArtifactFilters) (status : Text)
    (rows : List (RegistryRow Body)) :
    (∀ row ∈ listArtifacts collate filters status true rows,
        HighestVersion (withStatus status rows) row) ↔
      HighestPasses (withStatus status rows) (passes filters) := by
  rw [← latest_highest_iff collate, withStatus, List.filter_filter]
  simp only [listArtifacts, if_pos, Bool.and_comm]

/-- The filter of `list_artifacts_for_rule`. A blank rule passes no artifact. -/
def passesRule (ruleId : Text) (row : RegistryRow Body) : Bool :=
  decide (Text.strip ruleId ≠ []) && decide (Text.strip ruleId ∈ row.compiledRuleIds)

/-- The latest artifacts of `list_artifacts_for_rule` are the highest versions. -/
theorem listArtifactsForRule_highest_iff (ruleId status : Text) (rows : List (RegistryRow Body)) :
    (∀ row ∈ listArtifactsForRule collate ruleId status true rows,
        HighestVersion (withStatus status rows) row) ↔
      HighestPasses (withStatus status rows) (passesRule ruleId) := by
  rw [listArtifactsForRule]
  by_cases hblank : Text.strip ruleId = []
  · rw [if_pos hblank]
    refine iff_of_true nofun ?_
    intro row _ hpass
    rw [passesRule, decide_eq_false (not_not_intro hblank)] at hpass
    cases hpass
  · rw [if_neg hblank, ← latest_highest_iff collate, withStatus, List.filter_filter]
    simp only [passesRule, hblank, not_false_eq_true, ne_eq, decide_true, Bool.true_and,
      Bool.and_comm, if_pos]

end Postgres

/-- In both repositories, what a listing of the latest artifacts with a status returns are the
highest versions with that status, exactly where the highest version of each artifact of which a
version passes the filter passes it too. -/
theorem latest_listed_iff {Body κ : Type} [LinearOrder κ] (collate : Text → κ) (status : Text) :
    (∀ (registry : Registry (ValidationContent Body)) (filters : ArtifactFilters),
      (∀ item ∈ registry.listArtifacts filters status true,
          Registry.HighestVersion (registry.withStatus status) item) ↔
        Registry.HighestPasses (registry.withStatus status) (Registry.passes filters)) ∧
    (∀ (registry : Registry (ValidationContent Body)) (ruleId : Text),
      (∀ item ∈ registry.listArtifactsForRule (fun content => content.compiledFrom.ruleIds) ruleId
            status,
          Registry.HighestVersion (registry.withStatus status) item) ↔
        Registry.HighestPasses (registry.withStatus status)
          (Registry.passesRule (fun content => content.compiledFrom.ruleIds) ruleId)) ∧
    (∀ (rows : List (Postgres.RegistryRow Body)) (filters : ArtifactFilters),
      (∀ row ∈ Postgres.listArtifacts collate filters status true rows,
          Postgres.HighestVersion (Postgres.withStatus status rows) row) ↔
        Postgres.HighestPasses (Postgres.withStatus status rows) (Postgres.passes filters)) ∧
    (∀ (rows : List (Postgres.RegistryRow Body)) (ruleId : Text),
      (∀ row ∈ Postgres.listArtifactsForRule collate ruleId status true rows,
          Postgres.HighestVersion (Postgres.withStatus status rows) row) ↔
        Postgres.HighestPasses (Postgres.withStatus status rows) (Postgres.passesRule ruleId)) := by
  refine ⟨?_, ?_, ?_, ?_⟩
  · exact fun registry filters => registry.listArtifacts_highest_iff filters status
  · exact fun registry ruleId => registry.listArtifactsForRule_highest_iff _ ruleId status
  · exact fun rows filters => Postgres.listArtifacts_highest_iff collate filters status rows
  · exact fun rows ruleId => Postgres.listArtifactsForRule_highest_iff collate ruleId status rows

/-! ### A rule that a suite lost -/

/-- A suite that is compiled from a rule, in a version. -/
def sampleSuite (version : ℤ) (ruleIds : List Text) :
    ArtifactEnvelope (ValidationContent Unit) where
  id := "suite"
  version := version
  content := {
    artifactContractVersion := "v1"
    engineType := "gx"
    assignmentScope := ⟨some "orders", none, none⟩
    resolvedExecutionScope := ⟨["orders-v1"]⟩
    compiledFrom := ⟨ruleIds, "1", "2024-01-01T00:00:00Z"⟩
    body := () }

/-- The second version is not compiled from the rule any more. -/
def sampleSuites : Registry (ValidationContent Unit) :=
  let save (envelope : ArtifactEnvelope (ValidationContent Unit)) registry :=
    (Registry.saveArtifact (fun _ => []) 0 envelope "active" none none none registry).2
  save (sampleSuite 2 ["b"]) (save (sampleSuite 1 ["a", "b"]) ⟨[], []⟩)

/-- The listing of the lost rule returns the first version. -/
theorem superseded_version_listed :
    ¬ ∀ (registry : Registry (ValidationContent Unit)) (ruleId status : Text),
      ∀ item ∈ registry.listArtifactsForRule (fun content => content.compiledFrom.ruleIds) ruleId
          status,
        Registry.HighestVersion (registry.withStatus status) item := by
  intro h
  let old := (sampleSuite 1 ["a", "b"]).stored "active" none none
  let new := (sampleSuite 2 ["b"]).stored "active" none none
  have hlisted : sampleSuites.listArtifactsForRule (fun content => content.compiledFrom.ruleIds)
      "a" "active" = [old] := rfl
  have hstored : sampleSuites.withStatus "active" = [old, new] := rfl
  have hhighest := h sampleSuites "a" "active" old (by rw [hlisted]; exact .head _)
  rw [hstored] at hhighest
  have hle : (2 : ℤ) ≤ 1 := hhighest new (.tail _ (.head _)) rfl
  omega

end Artifacts

end DqMadeEasy
