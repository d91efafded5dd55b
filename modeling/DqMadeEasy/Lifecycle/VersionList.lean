import Mathlib.Data.Prod.Lex
import DqMadeEasy.Lifecycle.Governed
import DqMadeEasy.Logic.Sorted

/-!
# The list of versions

A rule's versions are listed newest first, a page at a time. Every edit and every rollback puts a
version on top of the list that has a greater number than the ones below it and keeps what the rule
has from then on. The in-memory repository flags the first row of the page as the current version,
the tables flag the row that the rule points to.

A version mirrors the rule where it keeps what the rule has of the fields that a rollback restores.
The active flag is one of them, and the lifecycle methods turn it without a new version.
-/

namespace DqMadeEasy

namespace Lifecycle

open Transition

/-- The fields that a rollback restores, the active flag aside. -/
structure Content where
  name : Text
  description : Option Text
  expression : Text
  dimension : Text
  dsl : Option Dict
  taxonomy : Option Dict
  checkType : Option Text
  checkTypeParams : Option Dict

/-- The number of a version and what it keeps. -/
structure RuleVersion where
  number : ℕ
  content : Content
  active : Bool

/-- The versions of a rule, newest first, and the rule's own fields. -/
structure VersionHistory where
  versions : List RuleVersion
  content : Content
  active : Bool

/-- What a lifecycle method sets the active flag to. -/
def Operation.turns : Operation → Option Bool
  | .activate _ _ => some true
  | .deactivate _ _ => some false
  | .recover _ _ _ => some false
  | _ => none

namespace VersionHistory

/-- A call keeps the versions and the content of a rule, or puts a version on top that mirrors the
rule. -/
inductive Step (h : VersionHistory) (op : Operation) (ruleId : Text) (h' : VersionHistory) : Prop
  | keep : h'.versions = h.versions → h'.content = h.content →
      (h'.active = h.active ∨ op.ruleId = ruleId ∧ op.turns = some h'.active) → Step h op ruleId h'
  | push {v : RuleVersion} : h'.versions = v :: h.versions →
      (∀ w ∈ h.versions, w.number < v.number) → v.content = h'.content → v.active = h'.active →
      Step h op ruleId h'

theorem Step.suffix {h h' : VersionHistory} {op : Operation} {ruleId : Text}
    (hstep : h.Step op ruleId h') : h.versions <:+ h'.versions := by
  cases hstep with
  | keep hversions _ _ => exact hversions ▸ List.suffix_rfl
  | push hversions _ _ _ => exact hversions ▸ List.suffix_cons _ _

/-- The numbers decrease, and the newest version has the content of the rule. -/
structure Mirrored (h : VersionHistory) : Prop where
  decreasing : h.versions.Pairwise fun v w => w.number < v.number
  content : ∀ v ∈ h.versions.head?, v.content = h.content

def FlagMirrored (h : VersionHistory) : Prop := ∀ v ∈ h.versions.head?, v.active = h.active

variable {op : Operation} {ruleId : Text} {h h' : VersionHistory}

theorem mirrored_of_nil (hversions : h.versions = []) : h.Mirrored ∧ h.FlagMirrored := by
  refine ⟨⟨?_, ?_⟩, ?_⟩
  · rw [hversions]
    exact .nil
  · rw [hversions]
    nofun
  · rw [FlagMirrored, hversions]
    nofun

theorem mirrored_of_singleton {v : RuleVersion} (hversions : h.versions = [v])
    (hcontent : v.content = h.content) (hactive : v.active = h.active) :
    h.Mirrored ∧ h.FlagMirrored := by
  refine ⟨⟨?_, ?_⟩, ?_⟩
  · rw [hversions]
    exact List.pairwise_singleton _ v
  · rw [hversions]
    rintro _ ⟨⟩
    exact hcontent
  · rw [FlagMirrored, hversions]
    rintro _ ⟨⟩
    exact hactive

theorem Mirrored.step (hm : h.Mirrored) (hstep : h.Step op ruleId h') : h'.Mirrored := by
  cases hstep with
  | keep hversions hcontent _ =>
    constructor
    · rw [hversions]
      exact hm.decreasing
    · rw [hversions, hcontent]
      exact hm.content
  | push hversions hnumber hcontent _ =>
    constructor
    · rw [hversions]
      exact .cons hnumber hm.decreasing
    · rw [hversions]
      rintro v ⟨⟩
      exact hcontent

/-- A call that turns no flag keeps it mirrored. -/
theorem FlagMirrored.step (hf : h.FlagMirrored) (hstep : h.Step op ruleId h')
    (hturns : op.ruleId = ruleId → ∀ flag ∈ op.turns, h.active = flag) : h'.FlagMirrored := by
  cases hstep with
  | keep hversions _ hactive =>
    have hsame : h'.active = h.active := by
      obtain hsame | ⟨hid, hturned⟩ := hactive
      · exact hsame
      · exact (hturns hid h'.active hturned).symm
    intro v hv
    rw [hversions] at hv
    rw [hsame]
    exact hf v hv
  | push hversions _ _ hactive =>
    intro v hv
    rw [hversions] at hv
    cases hv
    exact hactive

end VersionHistory

/-! ### Pages -/

/-- A listed version. -/
structure ListedVersion where
  id : Text
  versionNumber : ℕ
  createdAt : Instant
  createdBy : Text
  changeType : String
  changeDescription : Text
  markedForRollback : Bool
  tags : List Text
  isCurrentVersion : Bool
  validationStatus : Option Text
  validatedAt : Option Instant
  validatedByUserId : Option Text

/-- What `list_rule_versions` returns. -/
structure VersionPage where
  ruleId : Text
  ruleName : Text
  currentVersion : ℕ
  totalVersions : ℕ
  limit : ℕ
  offset : ℕ
  hasMore : Bool
  versions : List ListedVersion

/-- `max(1, min(100, limit))`. -/
def safeLimit (limit : ℤ) : ℕ := (max 1 (min 100 limit)).toNat

/-- `max(0, offset)`. -/
def safeOffset (offset : ℤ) : ℕ := (max 0 offset).toNat

/-- `rows[safe_offset : safe_offset + safe_limit]`. -/
def window {α : Type} (limit offset : ℤ) (rows : List α) : List α :=
  (rows.drop (safeOffset offset)).take (safeLimit limit)

theorem safeLimit_pos (limit : ℤ) : 0 < safeLimit limit := by
  rw [safeLimit]
  omega

theorem getElem?_window {α : Type} (limit offset : ℤ) (rows : List α) (i : ℕ) :
    (window limit offset rows)[i]? =
      if i < safeLimit limit then rows[safeOffset offset + i]? else none := by
  rw [window, List.getElem?_take, List.getElem?_drop]

def ListedVersion.unflagged (v : ListedVersion) : ListedVersion :=
  { v with isCurrentVersion := false }

def VersionHistory.Newest (h : VersionHistory) (v : ListedVersion) : Prop :=
  ∃ w ∈ h.versions.head?, w.number = v.versionNumber

def VersionPage.FlagsNewest (page : VersionPage) (h : VersionHistory) : Prop :=
  ∀ v ∈ page.versions, v.isCurrentVersion = true ↔ h.Newest v

/-- The pages of a rule's versions are the slices of one list, whose numbers are those of the
versions. -/
def Paged (h : VersionHistory) (list : ℤ → ℤ → Option VersionPage) : Prop :=
  ∃ all : List ListedVersion,
    all.map ListedVersion.versionNumber = h.versions.map RuleVersion.number ∧
      ∀ limit offset, ∃ page, list limit offset = some page ∧
        page.versions.map ListedVersion.unflagged = window limit offset all

/-- In a list of decreasing numbers only the first one is the newest. -/
theorem newest_iff {h : VersionHistory} (hm : h.Mirrored) {v : ListedVersion} {i : ℕ}
    {w : RuleVersion} (hw : h.versions[i]? = some w) (hv : v.versionNumber = w.number) :
    h.Newest v ↔ i = 0 := by
  cases hversions : h.versions with
  | nil =>
    rw [hversions] at hw
    cases hw
  | cons first rest =>
    rw [hversions] at hw
    have hdecreasing := hm.decreasing
    rw [hversions] at hdecreasing
    rw [VersionHistory.Newest, hversions, hv]
    cases i with
    | zero =>
      cases hw
      exact ⟨fun _ => rfl, fun _ => ⟨w, rfl, rfl⟩⟩
    | succ i =>
      have hlt : w.number < first.number :=
        (List.pairwise_cons.mp hdecreasing).1 w (List.mem_of_getElem? hw)
      constructor
      · rintro ⟨_, ⟨⟩, hsame⟩
        omega
      · nofun

/-! ### The in-memory repository -/

namespace InMemory

/-- The fields of a rule that a rollback restores. -/
def StoredRule.content (r : StoredRule) : Content where
  name := r.entity.name
  description := r.entity.description
  expression := r.entity.expression
  dimension := r.entity.dimension
  dsl := r.details.dsl
  taxonomy := r.details.taxonomy
  checkType := r.details.checkType
  checkTypeParams := r.details.checkTypeParams

/-- What a version row keeps of them. -/
def RuleSnapshot.content (snapshot : RuleSnapshot) : Content where
  name := snapshot.name
  description := snapshot.description.getD none
  expression := snapshot.expression
  dimension := snapshot.dimension
  dsl := snapshot.dsl
  taxonomy := snapshot.taxonomy
  checkType := snapshot.checkType
  checkTypeParams := snapshot.checkTypeParams

def VersionRow.version (row : VersionRow) : RuleVersion where
  number := row.versionNumber
  content := RuleSnapshot.content row.rule
  active := row.rule.active

def StoredRule.versionHistory (r : StoredRule) : VersionHistory where
  versions := r.versions.map VersionRow.version
  content := StoredRule.content r
  active := r.entity.active

/-- A row of a page. -/
def listedVersion (row : VersionRow) (isCurrentVersion : Bool) : ListedVersion where
  id := row.id
  versionNumber := row.versionNumber
  createdAt := row.createdAt
  createdBy := row.createdBy
  changeType := row.changeType
  changeDescription := row.changeDescription
  markedForRollback := row.markedForRollback
  tags := row.tags
  isCurrentVersion := isCurrentVersion
  validationStatus := row.validationStatus
  validatedAt := row.validatedAt
  validatedByUserId := row.validatedByUserId

/-- `list_rule_versions`. The flag is computed from the position on the page. -/
def listRuleVersions (repo : Repository) (ruleId : Text) (limit offset : ℤ) :
    Option VersionPage :=
  (repo.find? ruleId).map fun r => {
    ruleId := ruleId
    ruleName := r.entity.name
    currentVersion := (r.versions.head?.map VersionRow.versionNumber).getD 0
    totalVersions := r.versions.length
    limit := safeLimit limit
    offset := safeOffset offset
    hasMore := safeOffset offset + safeLimit limit < r.versions.length
    versions := (window limit offset r.versions).zipIdx.map fun entry =>
      listedVersion entry.1 (entry.2 == 0) }

variable {r r' : StoredRule} {limit offset : ℤ}

theorem mem_page {v : ListedVersion} :
    v ∈ (window limit offset r.versions).zipIdx.map (fun entry =>
        listedVersion entry.1 (entry.2 == 0)) ↔
      ∃ i row, (window limit offset r.versions)[i]? = some row ∧
        v = listedVersion row (i == 0) := by
  rw [List.mem_map]
  constructor
  · rintro ⟨⟨row, i⟩, hmem, rfl⟩
    exact ⟨i, row, List.mk_mem_zipIdx_iff_getElem?.mp hmem, rfl⟩
  · rintro ⟨i, row, hrow, rfl⟩
    exact ⟨(row, i), List.mk_mem_zipIdx_iff_getElem?.mpr hrow, rfl⟩

/-- A page flags the newest version, and no other, exactly where it is the first page or empty. -/
theorem flagsNewest_iff {repo : Repository} {ruleId : Text} {page : VersionPage}
    (hfind : repo.find? ruleId = some r) (hm : (StoredRule.versionHistory r).Mirrored)
    (hpage : listRuleVersions repo ruleId limit offset = some page) :
    page.FlagsNewest (StoredRule.versionHistory r) ↔
      offset ≤ 0 ∨ (r.versions.length : ℤ) ≤ offset := by
  rw [listRuleVersions, hfind, Option.map_some] at hpage
  cases hpage
  have hnewest : ∀ i row, (window limit offset r.versions)[i]? = some row → ∀ flag,
      (StoredRule.versionHistory r).Newest (listedVersion row flag) ↔
        safeOffset offset + i = 0 := by
    intro i row hrow flag
    rw [getElem?_window] at hrow
    split at hrow
    · refine newest_iff hm (w := VersionRow.version row) ?_ rfl
      show (r.versions.map VersionRow.version)[_]? = _
      rw [List.getElem?_map, hrow, Option.map_some]
    · cases hrow
  constructor
  · intro hflags
    by_contra hnot
    rw [not_or, not_le, not_le] at hnot
    have hlt : safeOffset offset < r.versions.length := by
      rw [safeOffset]
      omega
    have hrow : (window limit offset r.versions)[0]? = some r.versions[safeOffset offset] := by
      rw [getElem?_window, if_pos (safeLimit_pos limit), Nat.add_zero, List.getElem?_eq_getElem hlt]
    have hzero := (hnewest 0 _ hrow true).mp
      ((hflags _ (mem_page.mpr ⟨0, _, hrow, rfl⟩)).mp rfl)
    rw [safeOffset] at hzero
    omega
  · intro hfirst v hv
    obtain ⟨i, row, hrow, rfl⟩ := mem_page.mp hv
    rw [hnewest i row hrow]
    obtain hle | hbeyond := hfirst
    · rw [safeOffset]
      show (i == 0) = true ↔ _
      rw [beq_iff_eq]
      omega
    · rw [getElem?_window, List.getElem?_eq_none (by rw [safeOffset]; omega)] at hrow
      split at hrow <;> cases hrow

theorem paged {repo : Repository} {ruleId : Text} (hfind : repo.find? ruleId = some r) :
    Paged (StoredRule.versionHistory r) (listRuleVersions repo ruleId) := by
  refine ⟨r.versions.map fun row => listedVersion row false, ?_, ?_⟩
  · rw [List.map_map, StoredRule.versionHistory, List.map_map]
    rfl
  · intro limit offset
    refine ⟨_, by rw [listRuleVersions, hfind, Option.map_some], ?_⟩
    rw [List.map_map, window, window, ← List.map_drop, ← List.map_take]
    apply List.ext_getElem?
    intro i
    rw [List.getElem?_map, List.getElem?_map, List.getElem?_zipIdx, Option.map_map]
    rfl

def StoredRule.Described (r : StoredRule) : Prop :=
  ∀ row ∈ r.versions, row.rule.description.isSome = true

def VersionsMirrored (repo : Repository) : Prop :=
  ∀ ruleId r, repo.find? ruleId = some r →
    StoredRule.Described r ∧ (StoredRule.versionHistory r).Mirrored

/-- The flag of a rule is turned by no lifecycle method: it is what the method sets. -/
def TurnsNoFlag (repo : Repository) (op : Operation) : Prop :=
  ∀ r ∈ repo.find? op.ruleId, ∀ flag ∈ op.turns, r.entity.active = flag

section Steps

variable [PyRuntime] {overrides : PolicyOverrides} {repo repo' : Repository} {op : Operation}
  {ruleId : Text} {now : Instant}

omit [PyRuntime] in
theorem step_of_versions (hversions : r'.versions = r.versions)
    (hcontent : StoredRule.content r' = StoredRule.content r)
    (hactive : r'.entity.active = r.entity.active ∨
      op.ruleId = ruleId ∧ op.turns = some r'.entity.active) (hd : StoredRule.Described r) :
    (StoredRule.versionHistory r).Step op ruleId (StoredRule.versionHistory r') ∧
      StoredRule.Described r' := by
  refine ⟨.keep ?_ hcontent hactive, ?_⟩
  · show r'.versions.map _ = _
    rw [hversions]
    rfl
  · rw [StoredRule.Described, hversions]
    exact hd

omit [PyRuntime] in
/-- A call that puts a described row with the next number on top. -/
theorem step_of_row {row : VersionRow} (hversions : r'.versions = row :: r.versions)
    (hnumber : row.versionNumber = nextVersionNumber r.versions)
    (hcontent : RuleSnapshot.content row.rule = StoredRule.content r')
    (hactive : row.rule.active = r'.entity.active)
    (hdescription : row.rule.description.isSome = true) (hd : StoredRule.Described r) :
    (StoredRule.versionHistory r).Step op ruleId (StoredRule.versionHistory r') ∧
      StoredRule.Described r' := by
  refine ⟨.push (v := VersionRow.version row) ?_ ?_ hcontent hactive, ?_⟩
  · show r'.versions.map _ = _
    rw [hversions]
    rfl
  · intro w hw
    obtain ⟨old, hold, rfl⟩ := List.mem_map.mp hw
    have hlt := versionNumber_lt_next hold
    rw [← hnumber] at hlt
    exact hlt
  · rw [StoredRule.Described, hversions]
    exact List.forall_mem_cons.mpr ⟨hdescription, hd⟩

theorem step_updated {fields : RuleFields} (hd : StoredRule.Described r)
    (h : updatedRule overrides now fields r = .ok (some r')) :
    (StoredRule.versionHistory r).Step op ruleId (StoredRule.versionHistory r') ∧
      StoredRule.Described r' := by
  rw [updatedRule] at h
  obtain ⟨_, _, hstore⟩ := ok_of_bind h
  cases hstore
  exact step_of_row rfl rfl rfl rfl rfl hd

theorem step_activated (hd : StoredRule.Described r)
    (h : activatedRule overrides now r = .ok (some r')) :
    (StoredRule.versionHistory r).Step (.activate ruleId now) ruleId
      (StoredRule.versionHistory r') ∧ StoredRule.Described r' := by
  rw [activatedRule] at h
  obtain ⟨_, _, hstore⟩ := ok_of_bind h
  cases hstore
  exact step_of_versions rfl rfl (.inr ⟨rfl, rfl⟩) hd

theorem step_deactivated (hd : StoredRule.Described r)
    (h : deactivatedRule overrides now r = .ok (some r')) :
    (StoredRule.versionHistory r).Step (.deactivate ruleId now) ruleId
      (StoredRule.versionHistory r') ∧ StoredRule.Described r' := by
  rw [deactivatedRule] at h
  obtain ⟨_, _, hstore⟩ := ok_of_bind h
  cases hstore
  exact step_of_versions rfl rfl (.inr ⟨rfl, rfl⟩) hd

theorem step_softDeleted {removedBy : Text} (hd : StoredRule.Described r)
    (h : softDeletedRule overrides now removedBy r = .ok (some r')) :
    (StoredRule.versionHistory r).Step op ruleId (StoredRule.versionHistory r') ∧
      StoredRule.Described r' := by
  rw [softDeletedRule] at h
  obtain ⟨_, _, h⟩ := ok_of_bind h
  obtain ⟨_, _, h⟩ := ok_of_bind h
  obtain ⟨_, _, h⟩ := ok_of_bind h
  obtain ⟨_, _, hstore⟩ := ok_of_bind h
  cases hstore
  exact step_of_versions rfl rfl (.inl rfl) hd

theorem step_recovered {recoveredBy : Text} (hd : StoredRule.Described r)
    (h : recoveredRule overrides now recoveredBy r = .ok (some r')) :
    (StoredRule.versionHistory r).Step (.recover ruleId now recoveredBy) ruleId
      (StoredRule.versionHistory r') ∧ StoredRule.Described r' := by
  rw [recoveredRule] at h
  obtain ⟨_, _, h⟩ := ok_of_bind h
  obtain ⟨_, _, hstore⟩ := ok_of_bind h
  cases hstore
  exact step_of_versions rfl rfl (.inr ⟨rfl, rfl⟩) hd

/-- The lifecycle status in the row of the current version is none of the listed fields. -/
theorem step_lifecycle {lifecycleStatus : Text} {changedBy reason : Option Text}
    (hd : StoredRule.Described r)
    (h : lifecycleRule overrides now lifecycleStatus changedBy reason r = .ok (some r')) :
    (StoredRule.versionHistory r).Step op ruleId (StoredRule.versionHistory r') ∧
      StoredRule.Described r' := by
  rw [lifecycleRule] at h
  split at h
  · cases h
  obtain ⟨_, _, h⟩ := ok_of_bind h
  obtain ⟨_, _, h⟩ := ok_of_bind h
  obtain ⟨_, _, hstore⟩ := ok_of_bind h
  cases hstore
  cases hversions : r.versions with
  | nil =>
    exact step_of_versions (by rw [StoredRule.recordTransition_versions, hversions]) rfl
      (.inl rfl) hd
  | cons row rows =>
    have hsame : (StoredRule.versionHistory r).versions =
        VersionRow.version row :: rows.map VersionRow.version := by
      show r.versions.map _ = _
      rw [hversions, List.map_cons]
    refine ⟨.keep hsame.symm rfl (.inl rfl), ?_⟩
    rw [StoredRule.Described, hversions] at hd
    obtain ⟨hrow, hrows⟩ := List.forall_mem_cons.mp hd
    exact List.forall_mem_cons.mpr ⟨hrow, hrows⟩

omit [PyRuntime] in
/-- A rollback of a described rule restores the row that it puts on top. -/
theorem step_rolledBack {toVersionId actorId reason : Text} {skipApproval : Bool}
    {tags : Option (List Text)} (hd : StoredRule.Described r) :
    (StoredRule.versionHistory r).Step op ruleId (StoredRule.versionHistory
      (rolledBackRule now ruleId toVersionId actorId reason skipApproval tags r).2) ∧
      StoredRule.Described
        (rolledBackRule now ruleId toVersionId actorId reason skipApproval tags r).2 := by
  rw [rolledBackRule]
  split
  · exact step_of_versions rfl rfl (.inl rfl) hd
  · rename_i current target hversions
    have htarget : target ∈ r.versions := by
      rw [rollbackVersions] at hversions
      split at hversions
      · cases hversions
      · rename_i hrows
        obtain ⟨_, _, hversions⟩ := ok_of_bind hversions
        obtain ⟨found, hfound, hpair⟩ := ok_of_bind hversions
        cases hpair
        exact List.mem_of_find?_eq_some (eq_some_of_orRaise hfound)
    have hdescribed := hd target htarget
    split
    · rename_i hnone
      rw [hnone] at hdescribed
      cases hdescribed
    · rename_i description hdescription
      refine step_of_row rfl rfl ?_ rfl hdescribed hd
      show RuleSnapshot.content target.rule = _
      rw [RuleSnapshot.content, hdescription]
      rfl

theorem step_transitioned {fromStatus : Option Text} {toStatus : Text}
    {changedBy reason : Option Text} (hd : StoredRule.Described r)
    (h : transitionedRule overrides now fromStatus toStatus changedBy reason r = .ok r') :
    (StoredRule.versionHistory r).Step op ruleId (StoredRule.versionHistory r') ∧
      StoredRule.Described r' := by
  rw [transitionedRule] at h
  obtain ⟨_, _, hstore⟩ := ok_of_bind h
  cases hstore
  refine step_of_versions ?_ ?_ (.inl ?_) hd
  · show StoredRule.versions (if _ then _ else _) = _
    split <;> rfl
  · show StoredRule.content (if _ then _ else _) = _
    split <;> rfl
  · show RuleEntity.active (StoredRule.entity (if _ then _ else _)) = _
    split <;> rfl

omit [PyRuntime] in
theorem step_core {versions : List VersionRow}
    (h : versions.map VersionRow.core = r.versions.map VersionRow.core)
    (hd : StoredRule.Described r) :
    (StoredRule.versionHistory r).Step op ruleId
      (StoredRule.versionHistory { r with versions := versions }) ∧
      StoredRule.Described { r with versions := versions } := by
  have hversion : VersionRow.version = (fun c : Text × ℕ × RuleSnapshot =>
      (⟨c.2.1, RuleSnapshot.content c.2.2, c.2.2.active⟩ : RuleVersion)) ∘ VersionRow.core := rfl
  have hdescribed : ∀ rows : List VersionRow, (∀ row ∈ rows, row.rule.description.isSome = true) ↔
      ∀ c ∈ rows.map VersionRow.core, c.2.2.description.isSome = true := by
    intro rows
    rw [List.forall_mem_map]
    rfl
  refine ⟨.keep ?_ rfl (.inl rfl), ?_⟩
  · show versions.map VersionRow.version = r.versions.map VersionRow.version
    rw [hversion, ← List.map_map, h, List.map_map]
  · rw [StoredRule.Described, hdescribed, h, ← hdescribed]
    exact hd

/-- What a call does to the versions of its rule. -/
theorem Changed.historyStep (h : Changed overrides repo op ruleId r r')
    (hd : StoredRule.Described r) :
    (StoredRule.versionHistory r).Step op ruleId (StoredRule.versionHistory r') ∧
      StoredRule.Described r' := by
  cases h with
  | update hchange => exact step_updated hd hchange
  | activate hchange => exact step_activated hd hchange
  | deactivate hchange => exact step_deactivated hd hchange
  | softDelete hchange => exact step_softDeleted hd hchange
  | recover hchange => exact step_recovered hd hchange
  | setLifecycleStatus hchange => exact step_lifecycle hd hchange
  | rollback => exact step_rolledBack hd
  | version _ hcore => exact step_core hcore hd
  | recordAuditEvent => exact step_of_versions rfl rfl (.inl rfl) hd
  | recordStatusTransition hchange => exact step_transitioned hd hchange

theorem Born.mirrored (h : Born repo op ruleId r') :
    StoredRule.Described r' ∧ (StoredRule.versionHistory r').Mirrored ∧
      (StoredRule.versionHistory r').FlagMirrored := by
  cases h with
  | create _ now origin fields =>
    exact ⟨List.forall_mem_singleton.mpr rfl, VersionHistory.mirrored_of_singleton rfl rfl rfl⟩
  | template => exact ⟨List.forall_mem_nil _, VersionHistory.mirrored_of_nil rfl⟩

theorem step_mirrored (h : VersionsMirrored repo) (hstep : Step overrides repo op repo') :
    VersionsMirrored repo' := by
  intro ruleId r' hr'
  obtain ⟨-, hborn⟩ | ⟨r, hr, rfl | hchanged⟩ := step_entry hstep hr'
  · exact ⟨hborn.mirrored.1, hborn.mirrored.2.1⟩
  · exact h ruleId r' hr
  · obtain ⟨hd, hm⟩ := h ruleId r hr
    obtain ⟨hhistory, hd'⟩ := hchanged.historyStep hd
    exact ⟨hd', hm.step hhistory⟩

def FlagsMirrored (repo : Repository) : Prop :=
  ∀ ruleId r, repo.find? ruleId = some r → (StoredRule.versionHistory r).FlagMirrored

theorem step_flagsMirrored (h : VersionsMirrored repo) (hf : FlagsMirrored repo)
    (hstep : Step overrides repo op repo') (hturns : TurnsNoFlag repo op) :
    FlagsMirrored repo' := by
  intro ruleId r' hr'
  obtain ⟨-, hborn⟩ | ⟨r, hr, rfl | hchanged⟩ := step_entry hstep hr'
  · exact hborn.mirrored.2.2
  · exact hf ruleId r' hr
  · refine (hf ruleId r hr).step (hchanged.historyStep (h ruleId r hr).1).1 ?_
    rintro rfl
    exact hturns r hr

end Steps

end InMemory

/-! ### The tables -/

namespace Postgres

/-- The fields of a row that a rollback restores. -/
def StoredRows.content (rows : StoredRows) : Content where
  name := rows.row.name
  description := rows.row.description
  expression := rows.row.expression
  dimension := rows.row.dimension
  dsl := rows.row.dsl
  taxonomy := rows.row.taxonomy
  checkType := rows.row.checkType
  checkTypeParams := rows.row.checkTypeParams

def RuleVersionRow.version (version : RuleVersionRow) : RuleVersion where
  number := version.versionNumber
  content := {
    name := version.name
    description := version.description
    expression := version.expression
    dimension := version.dimension
    dsl := version.dsl
    taxonomy := version.taxonomy
    checkType := version.checkType
    checkTypeParams := version.checkTypeParams }
  active := version.active

def RuleVersionRow.core (version : RuleVersionRow) : Text × RuleVersion :=
  (version.id, RuleVersionRow.version version)

def StoredRows.cores (rows : StoredRows) : List (Text × RuleVersion) :=
  rows.versions.map RuleVersionRow.core

def StoredRows.versionHistory (rows : StoredRows) : VersionHistory where
  versions := rows.cores.map Prod.snd
  content := rows.content
  active := rows.row.active

/-- No number is above the counter, no two versions have one id, and the pointer is at the newest
version. -/
structure StoredRows.Numbered (rows : StoredRows) : Prop where
  counted : ∀ c ∈ rows.cores, c.2.number ≤ rows.row.totalVersions
  distinct : (rows.cores.map Prod.fst).Nodup
  current : rows.currentVersionId = rows.cores.head?.map Prod.fst

def serializeVersionRow (names : Text → Option Text) (currentVersionId : Text)
    (version : RuleVersionRow) : ListedVersion where
  id := version.id
  versionNumber := version.versionNumber
  createdAt := version.createdAt
  createdBy := (names version.createdBy).getD (orText (some version.createdBy) "system")
  changeType := if version.changeType = "" then "modified" else version.changeType
  changeDescription := version.changeDescription
  markedForRollback := version.markedForRollback
  tags := version.tags.getD []
  isCurrentVersion := version.id == currentVersionId
  validationStatus := version.validationStatus
  validatedAt := version.validatedAt
  validatedByUserId := version.validatedBy

/-- `order_by(version_number.desc(), created_at.desc())`. -/
def ordered (versions : List RuleVersionRow) : List RuleVersionRow :=
  Sorted.sortOn (fun version => toLex (OrderDual.toDual version.versionNumber,
    OrderDual.toDual version.createdAt)) versions

/-- `list_rule_versions`, where `names` are the display names of the users. -/
def listRuleVersions (names : Text → Option Text) (tables : Tables) (ruleId : Text)
    (limit offset : ℤ) : Option VersionPage :=
  ((tables.find? ruleId).filter fun rows => rows.row.deletedOn.isNone).map fun rows =>
    let versions := ordered rows.versions
    let current := rows.currentVersionId.getD []
    { ruleId := ruleId
      ruleName := orText (some rows.row.name) ruleId
      currentVersion := ((versions.find? fun version => version.id = current).map
        RuleVersionRow.versionNumber).getD 0
      totalVersions := versions.length
      limit := safeLimit limit
      offset := safeOffset offset
      hasMore := safeOffset offset + safeLimit limit < versions.length
      versions := (window limit offset versions).map (serializeVersionRow names current) }

variable {rows rows' : StoredRows} {limit offset : ℤ} {names : Text → Option Text}
  {tables : Tables} {ruleId : Text}

theorem versions_versionHistory :
    (StoredRows.versionHistory rows).versions = rows.versions.map RuleVersionRow.version := by
  show (rows.versions.map _).map _ = _
  rw [List.map_map]
  rfl

theorem ordered_versions (hm : (StoredRows.versionHistory rows).Mirrored) :
    ordered rows.versions = rows.versions := by
  have hdecreasing := hm.decreasing
  rw [versions_versionHistory, List.pairwise_map] at hdecreasing
  apply Sorted.sortOn_eq_self
  refine hdecreasing.imp fun hlt => ?_
  rw [Prod.Lex.toLex_le_toLex]
  exact .inl (OrderDual.toDual_lt_toDual.mpr hlt)

theorem page_versions {page : VersionPage} (hm : (StoredRows.versionHistory rows).Mirrored)
    (hfind : tables.find? ruleId = some rows)
    (hpage : listRuleVersions names tables ruleId limit offset = some page) :
    page.versions = (window limit offset rows.versions).map
      (serializeVersionRow names (rows.currentVersionId.getD [])) := by
  rw [listRuleVersions, hfind] at hpage
  obtain ⟨found, hfound, rfl⟩ := Option.map_eq_some_iff.mp hpage
  rw [Option.filter_eq_some_iff] at hfound
  cases hfound.1
  simp only [ordered_versions hm]

/-- The pointer is at the first row alone. -/
theorem current_iff (hn : rows.Numbered) {i : ℕ} {version : RuleVersionRow}
    (hversion : rows.versions[i]? = some version) :
    version.id = rows.currentVersionId.getD [] ↔ i = 0 := by
  have hdistinct : (rows.versions.map RuleVersionRow.id).Nodup := by
    have hnodup := hn.distinct
    rw [StoredRows.cores, List.map_map] at hnodup
    exact hnodup
  have hcurrent := hn.current
  rw [StoredRows.cores] at hcurrent
  cases hversions : rows.versions with
  | nil =>
    rw [hversions] at hversion
    cases hversion
  | cons first rest =>
    rw [hversions] at hversion hdistinct hcurrent
    rw [hcurrent]
    show version.id = first.id ↔ i = 0
    cases i with
    | zero =>
      cases hversion
      exact ⟨fun _ => rfl, fun _ => rfl⟩
    | succ i =>
      have hmem : version.id ∈ rest.map RuleVersionRow.id :=
        List.mem_map_of_mem (List.mem_of_getElem? hversion)
      constructor
      · intro hsame
        rw [hsame] at hmem
        exact absurd hmem (List.nodup_cons.mp hdistinct).1
      · nofun

theorem flagsNewest {page : VersionPage} (hfind : tables.find? ruleId = some rows)
    (hn : rows.Numbered) (hm : (StoredRows.versionHistory rows).Mirrored)
    (hpage : listRuleVersions names tables ruleId limit offset = some page) :
    page.FlagsNewest (StoredRows.versionHistory rows) := by
  intro v hv
  rw [page_versions hm hfind hpage] at hv
  obtain ⟨version, hmem, rfl⟩ := List.mem_map.mp hv
  obtain ⟨i, hi⟩ := List.getElem?_of_mem (List.mem_of_mem_drop (List.mem_of_mem_take hmem))
  have hnewest : (StoredRows.versionHistory rows).Newest
      (serializeVersionRow names (rows.currentVersionId.getD []) version) ↔ i = 0 := by
    refine newest_iff hm (w := RuleVersionRow.version version) ?_ rfl
    rw [versions_versionHistory, List.getElem?_map, hi, Option.map_some]
  rw [hnewest, ← current_iff hn hi]
  exact beq_iff_eq

/-- The pages of a rule that is not removed are slices of the rows. -/
theorem paged (hfind : tables.find? ruleId = some rows) (hkept : rows.row.deletedOn = none)
    (hm : (StoredRows.versionHistory rows).Mirrored) :
    Paged (StoredRows.versionHistory rows) (listRuleVersions names tables ruleId) := by
  refine ⟨rows.versions.map fun version =>
    (serializeVersionRow names (rows.currentVersionId.getD []) version).unflagged, ?_, ?_⟩
  · rw [versions_versionHistory, List.map_map, List.map_map]
    rfl
  · intro limit offset
    have hlisted : (some rows).filter (fun rows => rows.row.deletedOn.isNone) = some rows := by
      rw [Option.filter_some, hkept]
      rfl
    have hpage : ∃ page, listRuleVersions names tables ruleId limit offset = some page := by
      rw [listRuleVersions, hfind, hlisted]
      exact ⟨_, rfl⟩
    obtain ⟨page, hpage⟩ := hpage
    refine ⟨page, hpage, ?_⟩
    rw [page_versions hm hfind hpage, List.map_map, window, window, ← List.map_drop,
      ← List.map_take]
    rfl

def VersionsMirrored (tables : Tables) : Prop :=
  ∀ ruleId rows, tables.find? ruleId = some rows →
    rows.Numbered ∧ (StoredRows.versionHistory rows).Mirrored

/-- The flag of a rule is turned by no lifecycle method: it is what the method sets. -/
def TurnsNoFlag (tables : Tables) (op : Operation) : Prop :=
  ∀ rows ∈ tables.find? op.ruleId, ∀ flag ∈ op.turns, rows.row.active = flag

section Steps

variable [PyRuntime] {overrides : PolicyOverrides} {tables' : Tables} {op : Operation}
  {now : Instant} {draws : Draws}

omit [PyRuntime] in
/-- A call that changes what is no part of the core of a row keeps the versions. -/
theorem step_of_cores (hcores : rows'.cores = rows.cores)
    (htotal : rows'.row.totalVersions = rows.row.totalVersions)
    (hcurrent : rows'.currentVersionId = rows.currentVersionId)
    (hcontent : rows'.content = rows.content)
    (hactive : rows'.row.active = rows.row.active ∨
      op.ruleId = ruleId ∧ op.turns = some rows'.row.active) (hn : rows.Numbered) :
    (StoredRows.versionHistory rows).Step op ruleId (StoredRows.versionHistory rows') ∧
      rows'.Numbered := by
  refine ⟨.keep ?_ hcontent hactive, ⟨?_, ?_, ?_⟩⟩
  · show rows'.cores.map _ = rows.cores.map _
    rw [hcores]
  · rw [hcores, htotal]
    exact hn.counted
  · rw [hcores]
    exact hn.distinct
  · rw [hcores, hcurrent]
    exact hn.current

omit [PyRuntime] in
/-- A call that puts a row with a fresh id and the next number on top. -/
theorem step_of_version {version : RuleVersionRow}
    (hversions : rows'.versions = version :: rows.versions)
    (hnumber : rows.row.totalVersions < version.versionNumber)
    (htotal : rows'.row.totalVersions = version.versionNumber)
    (hcurrent : rows'.currentVersionId = some version.id)
    (hcontent : (RuleVersionRow.version version).content = rows'.content)
    (hactive : version.active = rows'.row.active)
    (hfresh : ∀ old ∈ rows.versions, old.id ≠ version.id) (hn : rows.Numbered) :
    (StoredRows.versionHistory rows).Step op ruleId (StoredRows.versionHistory rows') ∧
      rows'.Numbered := by
  have hcores : rows'.cores = version.core :: rows.cores := by
    rw [StoredRows.cores, hversions]
    rfl
  have hbelow : ∀ c ∈ rows.cores, c.2.number < version.versionNumber := by
    intro c hc
    have hle := hn.counted c hc
    omega
  refine ⟨.push (v := RuleVersionRow.version version) ?_ ?_ hcontent hactive, ⟨?_, ?_, ?_⟩⟩
  · show rows'.cores.map _ = _
    rw [hcores]
    rfl
  · intro w hw
    obtain ⟨c, hc, rfl⟩ := List.mem_map.mp hw
    exact hbelow c hc
  · rw [hcores, htotal]
    exact List.forall_mem_cons.mpr ⟨le_rfl, fun c hc => (hbelow c hc).le⟩
  · rw [hcores, List.map_cons, List.nodup_cons]
    refine ⟨?_, hn.distinct⟩
    intro hmem
    obtain ⟨_, hc, hsame⟩ := List.mem_map.mp hmem
    obtain ⟨old, hold, rfl⟩ := List.mem_map.mp hc
    exact hfresh old hold hsame
  · rw [hcores, hcurrent]
    rfl

omit [PyRuntime] in
theorem cores_changeVersion {versionId : Text} {change : RuleVersionRow → RuleVersionRow}
    (hchange : ∀ version, (change version).core = version.core) (versions : List RuleVersionRow) :
    (changeVersion versionId change versions).map RuleVersionRow.core =
      versions.map RuleVersionRow.core := by
  rw [changeVersion, List.map_map]
  apply List.map_congr_left
  intro version _
  show RuleVersionRow.core (if _ then _ else _) = _
  split
  · exact hchange version
  · rfl

theorem step_activated (hn : rows.Numbered)
    (h : activatedRows overrides now rows = .ok (some rows')) :
    (StoredRows.versionHistory rows).Step (.activate ruleId now) ruleId
      (StoredRows.versionHistory rows') ∧ rows'.Numbered := by
  rw [activatedRows] at h
  split at h
  · cases h
  obtain ⟨_, _, hstore⟩ := ok_of_bind h
  cases hstore
  exact step_of_cores rfl rfl rfl rfl (.inr ⟨rfl, rfl⟩) hn

theorem step_deactivated (hn : rows.Numbered)
    (h : deactivatedRows overrides now rows = .ok (some rows')) :
    (StoredRows.versionHistory rows).Step (.deactivate ruleId now) ruleId
      (StoredRows.versionHistory rows') ∧ rows'.Numbered := by
  rw [deactivatedRows] at h
  split at h
  · cases h
  obtain ⟨_, _, hstore⟩ := ok_of_bind h
  cases hstore
  exact step_of_cores rfl rfl rfl rfl (.inr ⟨rfl, rfl⟩) hn

theorem step_softDeleted {removedBy : Text} (hn : rows.Numbered)
    (h : softDeletedRows overrides now removedBy rows = .ok (some rows')) :
    (StoredRows.versionHistory rows).Step op ruleId (StoredRows.versionHistory rows') ∧
      rows'.Numbered := by
  rw [softDeletedRows] at h
  obtain ⟨_, _, h⟩ := ok_of_bind h
  obtain ⟨_, _, h⟩ := ok_of_bind h
  obtain ⟨_, _, h⟩ := ok_of_bind h
  obtain ⟨_, _, hstore⟩ := ok_of_bind h
  cases hstore
  exact step_of_cores rfl rfl rfl rfl (.inl rfl) hn

theorem step_recovered {recoveredBy : Text} (hn : rows.Numbered)
    (h : recoveredRows overrides now recoveredBy rows = .ok (some rows')) :
    (StoredRows.versionHistory rows).Step (.recover ruleId now recoveredBy) ruleId
      (StoredRows.versionHistory rows') ∧ rows'.Numbered := by
  rw [recoveredRows] at h
  obtain ⟨_, _, h⟩ := ok_of_bind h
  obtain ⟨_, _, hstore⟩ := ok_of_bind h
  cases hstore
  exact step_of_cores rfl rfl rfl rfl (.inr ⟨rfl, rfl⟩) hn

/-- The lifecycle status in the row of the current version is no part of its core. -/
theorem step_lifecycle {lifecycleStatus : Text} {changedBy reason : Option Text}
    (hn : rows.Numbered)
    (h : lifecycleRows overrides now lifecycleStatus changedBy reason rows = .ok (some rows')) :
    (StoredRows.versionHistory rows).Step op ruleId (StoredRows.versionHistory rows') ∧
      rows'.Numbered := by
  rw [lifecycleRows] at h
  split at h
  · cases h
  obtain ⟨_, _, h⟩ := ok_of_bind h
  obtain ⟨_, _, h⟩ := ok_of_bind h
  obtain ⟨_, _, hstore⟩ := ok_of_bind h
  cases hstore
  refine step_of_cores ?_ rfl rfl rfl (.inl rfl) hn
  rw [StoredRows.cores, StoredRows.cores]
  dsimp only
  split
  · refine cores_changeVersion ?_ rows.versions
    exact fun _ => rfl
  · rfl

omit [PyRuntime] in
theorem step_rolledBack {rollbackId toVersionId actorId reason versionId : Text}
    {tags : Option (List Text)} (hn : rows.Numbered)
    (hfresh : ∀ old ∈ rows.versions, old.id ≠ versionId)
    (h : rolledBackRows ruleId versionId rollbackId now toVersionId actorId reason tags rows =
      .ok (some rows')) :
    (StoredRows.versionHistory rows).Step op ruleId (StoredRows.versionHistory rows') ∧
      rows'.Numbered := by
  rw [rolledBackRows] at h
  split at h
  · cases h
  obtain ⟨_, _, h⟩ := ok_of_bind h
  obtain ⟨_, _, h⟩ := ok_of_bind h
  obtain ⟨target, _, hstore⟩ := ok_of_bind h
  cases hstore
  refine step_of_version rfl ?_ rfl rfl rfl rfl hfresh hn
  show _ < (if rows.row.totalVersions = 0 then 1 else rows.row.totalVersions) + 1
  split <;> omega

theorem step_transitioned {fromStatus : Option Text} {toStatus : Text}
    {changedBy reason : Option Text} (hn : rows.Numbered)
    (h : transitionedRows overrides now fromStatus toStatus changedBy reason rows =
      .ok (some rows')) :
    (StoredRows.versionHistory rows).Step op ruleId (StoredRows.versionHistory rows') ∧
      rows'.Numbered := by
  rw [transitionedRows] at h
  obtain ⟨_, _, hstore⟩ := ok_of_bind h
  cases hstore
  by_cases hempty : normalizeRuleStatus (some toStatus) = []
  · simp only [if_pos hempty]
    exact step_of_cores rfl rfl rfl rfl (.inl rfl) hn
  · simp only [if_neg hempty]
    exact step_of_cores rfl rfl rfl rfl (.inl rfl) hn

omit [PyRuntime] in
theorem step_changedVersion {versionId : Text} {change : RuleVersionRow → RuleVersionRow}
    (hn : rows.Numbered) (h : changedVersionRows versionId change rows = .ok (some rows'))
    (hchange : ∀ version, (change version).core = version.core) :
    (StoredRows.versionHistory rows).Step op ruleId (StoredRows.versionHistory rows') ∧
      rows'.Numbered := by
  rw [changedVersionRows] at h
  split at h
  · cases h
  cases h
  exact step_of_cores (cores_changeVersion hchange rows.versions) rfl rfl rfl (.inl rfl) hn

omit [PyRuntime] in
theorem step_validated {validationStatus : Text} {validatedBy : Option Text} (hn : rows.Numbered)
    (h : validatedRows now validationStatus validatedBy rows = .ok (some rows')) :
    (StoredRows.versionHistory rows).Step op ruleId (StoredRows.versionHistory rows') ∧
      rows'.Numbered := by
  rw [validatedRows] at h
  split at h
  · cases h
  split at h
  · cases h
  split at h
  · cases h
  cases h
  refine step_of_cores ?_ rfl rfl rfl (.inl rfl) hn
  refine cores_changeVersion ?_ rows.versions
  exact fun _ => rfl

variable [PyNumerals]

theorem step_updated {versionId : Text} {fields : RuleFields} (hn : rows.Numbered)
    (hfresh : ∀ old ∈ rows.versions, old.id ≠ versionId)
    (h : updatedRows overrides versionId now fields rows = .ok (some rows')) :
    (StoredRows.versionHistory rows).Step op ruleId (StoredRows.versionHistory rows') ∧
      rows'.Numbered := by
  rw [updatedRows] at h
  split at h
  · cases h
  obtain ⟨_, _, h⟩ := ok_of_bind h
  obtain ⟨_, _, hstore⟩ := ok_of_bind h
  cases hstore
  exact step_of_version rfl (Nat.lt_succ_self _) rfl rfl rfl rfl hfresh hn

/-- What a call does to the versions of its rule. -/
theorem historyStep {change : StoredRows → Except RepositoryError (Option StoredRows)}
    (hop : changeOf overrides draws op = some (ruleId, change))
    (hchange : change rows = .ok (some rows')) (hn : rows.Numbered)
    (hfresh : ∀ old ∈ rows.versions, old.id ≠ draws.versionId) :
    (StoredRows.versionHistory rows).Step op ruleId (StoredRows.versionHistory rows') ∧
      rows'.Numbered := by
  cases op with
  | create => cases hop
  | saveAsTemplate => cases hop
  | update => cases hop; exact step_updated hn hfresh hchange
  | activate => cases hop; exact step_activated hn hchange
  | deactivate => cases hop; exact step_deactivated hn hchange
  | softDelete => cases hop; exact step_softDeleted hn hchange
  | recover => cases hop; exact step_recovered hn hchange
  | setLifecycleStatus => cases hop; exact step_lifecycle hn hchange
  | rollback => cases hop; exact step_rolledBack hn hfresh hchange
  | updateVersionTags => cases hop; exact step_changedVersion hn hchange fun _ => rfl
  | markForRollback => cases hop; exact step_changedVersion hn hchange fun _ => rfl
  | setVersionValidation => cases hop; exact step_validated hn hchange
  | recordAuditEvent =>
    cases hop
    cases hchange
    exact step_of_cores rfl rfl rfl rfl (.inl rfl) hn
  | recordStatusTransition => cases hop; exact step_transitioned hn hchange

theorem Born.mirrored (h : Born draws tables op ruleId rows') :
    rows'.Numbered ∧ (StoredRows.versionHistory rows').Mirrored ∧
      (StoredRows.versionHistory rows').FlagMirrored := by
  cases h with
  | create _ now origin fields =>
    refine ⟨⟨?_, ?_, rfl⟩, VersionHistory.mirrored_of_singleton rfl rfl rfl⟩
    · exact List.forall_mem_singleton.mpr le_rfl
    · exact List.nodup_singleton _
  | template =>
    exact ⟨⟨List.forall_mem_nil _, List.nodup_nil, rfl⟩, VersionHistory.mirrored_of_nil rfl⟩

/-- A call that draws a version id of no stored version. -/
def FreshStep (overrides : PolicyOverrides) (tables : Tables) (op : Operation) (tables' : Tables) :
    Prop :=
  (∀ ruleId, op.newId? = some ruleId → tables.find? ruleId = none) ∧
    ∃ draws, tables' = perform overrides draws tables op ∧
      ∀ ruleId rows, tables.find? ruleId = some rows → ∀ old ∈ rows.versions,
        old.id ≠ draws.versionId

theorem step_mirrored (h : VersionsMirrored tables)
    (hstep : FreshStep overrides tables op tables') : VersionsMirrored tables' := by
  obtain ⟨hnew, draws, rfl, hfresh⟩ := hstep
  intro ruleId rows' hrows'
  obtain ⟨-, hborn⟩ | ⟨rows, hrows, rfl | ⟨change, hop, hchange⟩⟩ := perform_entry hnew hrows'
  · exact ⟨hborn.mirrored.1, hborn.mirrored.2.1⟩
  · exact h ruleId rows' hrows
  · obtain ⟨hn, hm⟩ := h ruleId rows hrows
    obtain ⟨hhistory, hn'⟩ := historyStep hop hchange hn (hfresh ruleId rows hrows)
    exact ⟨hn', hm.step hhistory⟩

def FlagsMirrored (tables : Tables) : Prop :=
  ∀ ruleId rows, tables.find? ruleId = some rows → (StoredRows.versionHistory rows).FlagMirrored

theorem step_flagsMirrored (h : VersionsMirrored tables) (hf : FlagsMirrored tables)
    (hstep : FreshStep overrides tables op tables') (hturns : TurnsNoFlag tables op) :
    FlagsMirrored tables' := by
  obtain ⟨hnew, draws, rfl, hfresh⟩ := hstep
  intro ruleId rows' hrows'
  obtain ⟨-, hborn⟩ | ⟨rows, hrows, rfl | ⟨change, hop, hchange⟩⟩ := perform_entry hnew hrows'
  · exact hborn.mirrored.2.2
  · exact hf ruleId rows' hrows
  · have hhistory := (historyStep hop hchange (h ruleId rows hrows).1
      (hfresh ruleId rows hrows)).1
    refine (hf ruleId rows hrows).step hhistory ?_
    rintro rfl
    exact hturns rows hrows

end Steps

end Postgres

/-! ### Runs -/

/-- The versions of a rule are mirrored and listed page by page, and the pages that meet a condition
are those that flag the newest version and no other. -/
structure Listed (flags : ℤ → ℤ → Prop) (h : VersionHistory)
    (list : ℤ → ℤ → Option VersionPage) : Prop where
  mirrored : h.Mirrored
  paged : Paged h list
  flagged : ∀ limit offset page, list limit offset = some page →
    (page.FlagsNewest h ↔ flags limit offset)

section Runs

variable [PyRuntime] {overrides : PolicyOverrides} {events : List Operation}

theorem InMemory.listed {start repo : InMemory.Repository} {ruleId : Text}
    {r : StoredRule} (hstart : InMemory.VersionsMirrored start)
    (hruns : Runs (InMemory.Step overrides) (fun _ _ => True) start events repo)
    (hfind : repo.find? ruleId = some r) :
    Listed (fun _ offset => offset ≤ 0 ∨ (r.versions.length : ℤ) ≤ offset)
      (InMemory.StoredRule.versionHistory r) (InMemory.listRuleVersions repo ruleId) := by
  have hrepo : InMemory.VersionsMirrored repo :=
    hruns.invariant hstart fun s op s' hs hstep _ => InMemory.step_mirrored hs hstep
  have hm := (hrepo ruleId r hfind).2
  exact ⟨hm, InMemory.paged hfind, fun _ _ _ => InMemory.flagsNewest_iff hfind hm⟩

theorem InMemory.flagsMirrored {start repo : InMemory.Repository}
    (hstart : InMemory.VersionsMirrored start) (hflags : InMemory.FlagsMirrored start)
    (hruns : Runs (InMemory.Step overrides) InMemory.TurnsNoFlag start events repo) :
    InMemory.FlagsMirrored repo := by
  have hinvariant : InMemory.VersionsMirrored repo ∧ InMemory.FlagsMirrored repo := by
    refine hruns.invariant (I := fun s => InMemory.VersionsMirrored s ∧ InMemory.FlagsMirrored s)
      ⟨hstart, hflags⟩ ?_
    intro s op s' hs hstep hturns
    exact ⟨InMemory.step_mirrored hs.1 hstep, InMemory.step_flagsMirrored hs.1 hs.2 hstep hturns⟩
  exact hinvariant.2

variable [PyNumerals]

theorem Postgres.listed {names : Text → Option Text} {start tables : Postgres.Tables}
    {ruleId : Text} {rows : Postgres.StoredRows} (hstart : Postgres.VersionsMirrored start)
    (hruns : Runs (Postgres.FreshStep overrides) (fun _ _ => True) start events tables)
    (hfind : tables.find? ruleId = some rows) (hkept : rows.row.deletedOn = none) :
    Listed (fun _ _ => True) (Postgres.StoredRows.versionHistory rows)
      (Postgres.listRuleVersions names tables ruleId) := by
  have htables : Postgres.VersionsMirrored tables :=
    hruns.invariant hstart fun s op s' hs hstep _ => Postgres.step_mirrored hs hstep
  obtain ⟨hn, hm⟩ := htables ruleId rows hfind
  refine ⟨hm, Postgres.paged hfind hkept hm, ?_⟩
  intro limit offset page hpage
  exact iff_of_true (Postgres.flagsNewest hfind hn hm hpage) trivial

theorem Postgres.flagsMirrored {start tables : Postgres.Tables}
    (hstart : Postgres.VersionsMirrored start) (hflags : Postgres.FlagsMirrored start)
    (hruns : Runs (Postgres.FreshStep overrides) Postgres.TurnsNoFlag start events tables) :
    Postgres.FlagsMirrored tables := by
  have hinvariant : Postgres.VersionsMirrored tables ∧ Postgres.FlagsMirrored tables := by
    refine hruns.invariant (I := fun s => Postgres.VersionsMirrored s ∧ Postgres.FlagsMirrored s)
      ⟨hstart, hflags⟩ ?_
    intro s op s' hs hstep hturns
    exact ⟨Postgres.step_mirrored hs.1 hstep, Postgres.step_flagsMirrored hs.1 hs.2 hstep hturns⟩
  exact hinvariant.2

end Runs

/-- No version of a rule is lost, and what a version keeps is never changed, in either repository. -/
theorem versions_kept [PyRuntime] [PyNumerals] (overrides : PolicyOverrides) :
    (∀ start events repo, InMemory.VersionsMirrored start →
      Runs (InMemory.Step overrides) (fun _ _ => True) start events repo →
      ∀ ruleId r, start.find? ruleId = some r → ∃ r', repo.find? ruleId = some r' ∧
        (InMemory.StoredRule.versionHistory r).versions <:+
          (InMemory.StoredRule.versionHistory r').versions) ∧
    ∀ start events tables, Postgres.VersionsMirrored start →
      Runs (Postgres.FreshStep overrides) (fun _ _ => True) start events tables →
      ∀ ruleId rows, start.find? ruleId = some rows → ∃ rows', tables.find? ruleId = some rows' ∧
        (Postgres.StoredRows.versionHistory rows).versions <:+
          (Postgres.StoredRows.versionHistory rows').versions := by
  constructor
  · intro start events repo hstart hruns ruleId r hr
    refine (hruns.invariant (I := fun s => InMemory.VersionsMirrored s ∧
      ∃ r', s.find? ruleId = some r' ∧ (InMemory.StoredRule.versionHistory r).versions <:+
        (InMemory.StoredRule.versionHistory r').versions) ⟨hstart, r, hr, List.suffix_rfl⟩ ?_).2
    rintro s op s' ⟨hs, q, hq, hkept⟩ hstep -
    refine ⟨InMemory.step_mirrored hs hstep, ?_⟩
    obtain ⟨q', hq', rfl | hchanged⟩ := InMemory.step_find hstep hq
    · exact ⟨q', hq', hkept⟩
    · exact ⟨q', hq', hkept.trans (hchanged.historyStep (hs ruleId q hq).1).1.suffix⟩
  · intro start events tables hstart hruns ruleId rows hrows
    refine (hruns.invariant (I := fun s => Postgres.VersionsMirrored s ∧
      ∃ rows', s.find? ruleId = some rows' ∧ (Postgres.StoredRows.versionHistory rows).versions <:+
        (Postgres.StoredRows.versionHistory rows').versions)
      ⟨hstart, rows, hrows, List.suffix_rfl⟩ ?_).2
    rintro s op s' ⟨hs, q, hq, hkept⟩ hstep -
    refine ⟨Postgres.step_mirrored hs hstep, ?_⟩
    obtain ⟨hnew, draws, rfl, hfresh⟩ := hstep
    obtain ⟨q', hq'⟩ := Postgres.step_find ⟨hnew, draws, rfl⟩ hq
    obtain ⟨hnone, -⟩ | ⟨old, hold, hsame | ⟨change, hop, hchange⟩⟩ := Postgres.perform_entry hnew hq'
    · rw [hq] at hnone
      cases hnone
    · rw [hq, ← hsame] at hold
      cases hold
      exact ⟨_, hq', hkept⟩
    · rw [hq] at hold
      cases hold
      have hstep := (Postgres.historyStep hop hchange (hs ruleId q hq).1 (hfresh ruleId q hq)).1
      exact ⟨q', hq', hkept.trans hstep.suffix⟩

/-- Over every run the versions of a rule are mirrored and listed page by page. The tables flag the
newest version on every page, the in-memory repository does exactly on the pages that start at it
or are empty. The active flag is mirrored in runs that turn it by no lifecycle method. -/
theorem versions_listed [PyRuntime] [PyNumerals] (overrides : PolicyOverrides) :
    (∀ start events repo, InMemory.VersionsMirrored start →
      Runs (InMemory.Step overrides) (fun _ _ => True) start events repo →
      ∀ ruleId r, repo.find? ruleId = some r →
        Listed (fun _ offset => offset ≤ 0 ∨ (r.versions.length : ℤ) ≤ offset)
          (InMemory.StoredRule.versionHistory r) (InMemory.listRuleVersions repo ruleId)) ∧
    (∀ names start events tables, Postgres.VersionsMirrored start →
      Runs (Postgres.FreshStep overrides) (fun _ _ => True) start events tables →
      ∀ ruleId rows, tables.find? ruleId = some rows → rows.row.deletedOn = none →
        Listed (fun _ _ => True) (Postgres.StoredRows.versionHistory rows)
          (Postgres.listRuleVersions names tables ruleId)) ∧
    (∀ start events repo, InMemory.VersionsMirrored start → InMemory.FlagsMirrored start →
      Runs (InMemory.Step overrides) InMemory.TurnsNoFlag start events repo →
      InMemory.FlagsMirrored repo) ∧
    (∀ start events tables, Postgres.VersionsMirrored start → Postgres.FlagsMirrored start →
      Runs (Postgres.FreshStep overrides) Postgres.TurnsNoFlag start events tables →
      Postgres.FlagsMirrored tables) := by
  refine ⟨?_, ?_, ?_, ?_⟩
  · intro start events repo hstart hruns ruleId r hfind
    exact InMemory.listed hstart hruns hfind
  · intro names start events tables hstart hruns ruleId rows hfind hkept
    exact Postgres.listed hstart hruns hfind hkept
  · intro start events repo hstart hflags hruns
    exact InMemory.flagsMirrored hstart hflags hruns
  · intro start events tables hstart hflags hruns
    exact Postgres.flagsMirrored hstart hflags hruns

/-! ### The second page -/

section Sample

local instance sampleRuntimeVersions : PyRuntime := sampleRuntimeActivation

local instance sampleNumeralsVersions : PyNumerals := sampleNumeralsActivation

/-- A rule with two versions. -/
def sampleEdited : InMemory.Repository :=
  sampleRepository [InMemory.sampleEdit "phone IS NOT NULL" []]

theorem runs_sampleEdited : Runs (InMemory.Step noOverrides) (fun _ _ => True)
    ⟨[], ["user-admin"], List.mem_cons_self⟩
    [sampleCreation, InMemory.sampleEdit "phone IS NOT NULL" []] sampleEdited :=
  runs_sampleRepository (by decide) (fun _ => trivial) fun _ _ _ => trivial

theorem versionsMirrored_empty :
    InMemory.VersionsMirrored ⟨[], ["user-admin"], List.mem_cons_self⟩ := by
  intro ruleId r hr
  cases hr

theorem find_sampleEdited :
    ∃ r, sampleEdited.find? "r" = some r ∧ r.versions.length = 2 := by
  have hlength : (sampleEdited.find? "r").map (fun r => r.versions.length) = some 2 := by
    decide +kernel
  exact Option.map_eq_some_iff.mp hlength

theorem versions_kept_of_edit : ∃ r r', (sampleRepository []).find? "r" = some r ∧
    sampleEdited.find? "r" = some r' ∧ (InMemory.StoredRule.versionHistory r).versions <:+
      (InMemory.StoredRule.versionHistory r').versions := by
  have hcreated : Runs (InMemory.Step noOverrides) (fun _ _ => True)
      ⟨[], ["user-admin"], List.mem_cons_self⟩ [sampleCreation] (sampleRepository []) :=
    runs_sampleRepository (by decide) (fun _ => trivial) fun _ _ _ => trivial
  have hmirrored : InMemory.VersionsMirrored (sampleRepository []) :=
    hcreated.invariant versionsMirrored_empty fun _ _ _ hs hstep _ =>
      InMemory.step_mirrored hs hstep
  obtain ⟨r, hr⟩ := Option.isSome_iff_exists.mp
    (show ((sampleRepository []).find? "r").isSome = true by decide +kernel)
  obtain ⟨r', hr', hkept⟩ := (versions_kept noOverrides).1 _ _ sampleEdited hmirrored
    (InMemory.runs_of_calls (by decide) (fun _ _ _ => trivial) _) "r" r hr
  exact ⟨r, r', hr, hr', hkept⟩

/-- The first page of an edited rule flags the edit. -/
theorem versions_listed_of_edit : ∃ r page, sampleEdited.find? "r" = some r ∧
    InMemory.listRuleVersions sampleEdited "r" 20 0 = some page ∧
    page.FlagsNewest (InMemory.StoredRule.versionHistory r) := by
  obtain ⟨r, hr, -⟩ := find_sampleEdited
  have hlisted := (versions_listed noOverrides).1 _ _ _ versionsMirrored_empty runs_sampleEdited
    "r" r hr
  obtain ⟨_, -, hpages⟩ := hlisted.paged
  obtain ⟨page, hpage, -⟩ := hpages 20 0
  exact ⟨r, page, hr, hpage, (hlisted.flagged 20 0 page hpage).mpr (.inl le_rfl)⟩

/-- The second page of an edited rule flags its first version. -/
theorem second_page_flags_old_version :
    ¬ ∀ (overrides : PolicyOverrides) (start : InMemory.Repository) (events : List Operation)
      (repo : InMemory.Repository), InMemory.VersionsMirrored start →
      Runs (InMemory.Step overrides) (fun _ _ => True) start events repo →
      ∀ ruleId r, repo.find? ruleId = some r →
        Listed (fun _ _ => True) (InMemory.StoredRule.versionHistory r)
          (InMemory.listRuleVersions repo ruleId) := by
  intro h
  obtain ⟨r, hr, hlength⟩ := find_sampleEdited
  have hlisted := h noOverrides _ _ _ versionsMirrored_empty runs_sampleEdited "r" r hr
  obtain ⟨_, -, hpages⟩ := hlisted.paged
  obtain ⟨page, hpage, -⟩ := hpages 1 1
  have hflags : page.FlagsNewest (InMemory.StoredRule.versionHistory r) :=
    (hlisted.flagged 1 1 page hpage).mpr trivial
  have hfirst : (1 : ℤ) ≤ 0 ∨ (r.versions.length : ℤ) ≤ 1 :=
    (InMemory.flagsNewest_iff hr hlisted.mirrored hpage).mp hflags
  rw [hlength] at hfirst
  omega

end Sample

end Lifecycle

end DqMadeEasy
