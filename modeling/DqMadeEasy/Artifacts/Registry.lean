import DqMadeEasy.Lifecycle.Rule

/-!
# The in-memory artifact registry

Versioned artifacts and the history of their statuses. The repository of GX suites and the one of
validation artifacts are two registries of this kind; what an artifact says besides its id, its
version and what a save sets is its content. Overwriting a stored version needs the hash of the
stored artifact, unless the two hash alike.
-/

namespace DqMadeEasy

namespace Artifacts

open Lifecycle

/-- The artifact that is to be saved. -/
structure ArtifactEnvelope (Content : Type) where
  id : Text
  version : ℤ
  content : Content

/-- A row of `_artifacts`. -/
structure StoredArtifact (Content : Type) where
  id : Text
  version : ℤ
  content : Content
  status : Text
  savedBy : Option Text
  sourcePipeline : Option Text

/-- A row of `_history`. -/
structure ArtifactStatusHistory where
  id : Text
  version : ℤ
  fromStatus : Option Text
  toStatus : Text
  changedBy : Option Text
  changedAt : Instant
  reason : Option Text
  deriving DecidableEq

/-- The state of the repository. -/
structure Registry (Content : Type) where
  artifacts : List (StoredArtifact Content)
  history : List ArtifactStatusHistory

variable {Content : Type}

/-- What `save_artifact` stores of an envelope. -/
def ArtifactEnvelope.stored (envelope : ArtifactEnvelope Content) (status : Text)
    (savedBy sourcePipeline : Option Text) : StoredArtifact Content where
  id := envelope.id
  version := envelope.version
  content := envelope.content
  status := status
  savedBy := savedBy
  sourcePipeline := sourcePipeline

/-- The rows with the first one of an id and a version replaced. -/
def replaceArtifact (row : StoredArtifact Content) :
    List (StoredArtifact Content) → List (StoredArtifact Content)
  | [] => []
  | item :: items =>
    if item.id = row.id ∧ item.version = row.version then row :: items
    else item :: replaceArtifact row items

namespace Registry

def find? (registry : Registry Content) (id : Text) (version : ℤ) :
    Option (StoredArtifact Content) :=
  registry.artifacts.find? fun item => item.id = id ∧ item.version = version

/-- `save_artifact`. The hash of the stored rows is a parameter. -/
def saveArtifact (hashPayload : StoredArtifact Content → Text) (now : Instant)
    (envelope : ArtifactEnvelope Content) (status : Text) (expectedExistingHash : Option Text)
    (savedBy sourcePipeline : Option Text) (registry : Registry Content) :
    Except RepositoryError (StoredArtifact Content) × Registry Content :=
  let row := envelope.stored status savedBy sourcePipeline
  let historyRow (fromStatus : Option Text) : ArtifactStatusHistory :=
    ⟨row.id, row.version, fromStatus, status, savedBy, now, none⟩
  match registry.find? row.id row.version with
  | some item =>
    if hashPayload item ≠ hashPayload row ∧ expectedExistingHash ≠ some (hashPayload item) then
      (.error (.valueError
        ("Validation artifact overwrite conflict: " ++
          "expected hash does not match current artifact")), registry)
    else
      (.ok row, {
        artifacts := replaceArtifact row registry.artifacts
        history := if item.status = status then registry.history
          else registry.history ++
            [historyRow (if item.status = [] then none else some item.status)] })
  | none =>
    (.ok row, {
      artifacts := registry.artifacts ++ [row]
      history := registry.history ++ [historyRow none] })

/-- `list_artifact_status_history` of all versions. -/
def listArtifactStatusHistory (registry : Registry Content) (id : Text) :
    List ArtifactStatusHistory :=
  registry.history.filter fun row => row.id = id

/-- `patch_artifact_status` of a version. -/
def patchArtifactStatus (now : Instant) (id : Text) (version : ℤ) (newStatus : Text)
    (changedBy reason : Option Text) (registry : Registry Content) : Registry Content :=
  match registry.find? id version with
  | none => registry
  | some target => {
    artifacts := replaceArtifact { target with status := newStatus } registry.artifacts
    history := registry.history ++ [{
      id := target.id
      version := target.version
      fromStatus := if target.status = [] then none else some target.status
      toStatus := newStatus
      changedBy := changedBy
      changedAt := now
      reason := reason }] }

/-- The rows with the artifact of an id replaced by one of a higher version. -/
def keepLatest (latest : List (Text × StoredArtifact Content)) (item : StoredArtifact Content) :
    List (Text × StoredArtifact Content) :=
  if item.id = [] then latest
  else match Assoc.find? latest item.id with
    | none => Assoc.update item.id (fun _ => item) latest
    | some existing =>
      if existing.version < item.version then Assoc.update item.id (fun _ => item) latest
      else latest

/-- `list_artifacts_for_rule`, of the latest versions. The rules that an artifact was compiled from
are a parameter. -/
def listArtifactsForRule (ruleIds : Content → List Text) (ruleId status : Text)
    (registry : Registry Content) : List (StoredArtifact Content) :=
  if Text.strip ruleId = [] then []
  else ((registry.artifacts.filter fun item => decide (item.status = status) &&
    decide (Text.strip ruleId ∈ ruleIds item.content)).foldl keepLatest []).map Prod.snd

theorem saveArtifact_error {hashPayload : StoredArtifact Content → Text} {now : Instant}
    {envelope : ArtifactEnvelope Content} {status : Text} {expectedExistingHash : Option Text}
    {savedBy sourcePipeline : Option Text} {registry registry' : Registry Content}
    {error : RepositoryError}
    (h : saveArtifact hashPayload now envelope status expectedExistingHash savedBy sourcePipeline
      registry = (.error error, registry')) : registry' = registry := by
  rw [saveArtifact] at h
  simp only at h
  split at h
  · split at h
    · exact (Prod.mk.inj h).2.symm
    · cases h
  · cases h

/-- A save without an expected hash is stored exactly where what it overwrites hashes alike. -/
theorem saveArtifact_ok_iff {hashPayload : StoredArtifact Content → Text} {now : Instant}
    {envelope : ArtifactEnvelope Content} {status : Text} {savedBy sourcePipeline : Option Text}
    {registry : Registry Content} :
    (∃ row, (saveArtifact hashPayload now envelope status none savedBy sourcePipeline registry).1 =
        .ok row) ↔
      ∀ item ∈ registry.find? envelope.id envelope.version,
        hashPayload item = hashPayload (envelope.stored status savedBy sourcePipeline) := by
  rw [saveArtifact]
  dsimp only
  split
  · rename_i item hfind
    have hfind : registry.find? envelope.id envelope.version = some item := hfind
    split
    · rename_i hconflict
      refine iff_of_false nofun fun hsame => ?_
      exact hconflict.1 (hsame item hfind)
    · rename_i hsame
      refine iff_of_true ⟨_, rfl⟩ fun other hother => ?_
      cases hfind.symm.trans hother
      by_contra hne
      exact hsame ⟨hne, nofun⟩
  · rename_i hnone
    refine iff_of_true ⟨_, rfl⟩ fun item hitem => ?_
    cases hnone.symm.trans hitem

end Registry

/-- `_allocate_next_artifact_version`, on the versions of the history. -/
def allocateNextArtifactVersion (history : List ArtifactStatusHistory) (minimumVersion : ℤ) : ℤ :=
  let maxVersion := (history.map ArtifactStatusHistory.version).foldl max 0
  if maxVersion ≤ 0 then max 1 minimumVersion else maxVersion + 1

end Artifacts

end DqMadeEasy
