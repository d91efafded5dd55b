import DqMadeEasy.Exceptions.Violations
import DqMadeEasy.Logic.Collect
import DqMadeEasy.Logic.Drain

/-!
# The purge of violations

Violations that were detected before a cutoff are deleted in batches. The repository in memory reads
the time of every stored violation to find those of a batch, so a single time that it cannot read
stops the purge of all scopes. Where every time can be read, the purge deletes what it should.
-/

namespace DqMadeEasy

namespace Exceptions

open Runs Worker

/-! ### Policies -/

/-- `ExceptionRetentionPolicy`, as `_build_exception_retention_policy` accepts it. -/
structure ExceptionRetentionPolicy where
  factRetentionDays : ℕ
  archiveRetentionDays : ℕ
  analyticsProjectionRetentionDays : ℕ
  purgeBatchSize : ℕ
  factRetentionDays_pos : 0 < factRetentionDays
  factRetentionDays_le : factRetentionDays ≤ archiveRetentionDays
  analyticsProjectionRetentionDays_pos : 0 < analyticsProjectionRetentionDays
  purgeBatchSize_pos : 0 < purgeBatchSize

def buildExceptionRetentionPolicy (factRetentionDays archiveRetentionDays
    analyticsProjectionRetentionDays purgeBatchSize : ℤ) :
    Except PyError ExceptionRetentionPolicy :=
  if hfact : factRetentionDays < 1 then
    .error (.builtin "ValueError" "exceptionFactRetentionDays must be at least 1")
  else if harchive : archiveRetentionDays < factRetentionDays then
    .error (.builtin "ValueError" ("exceptionFactArchiveRetentionDays must be greater than or " ++
      "equal to exceptionFactRetentionDays"))
  else if hanalytics : analyticsProjectionRetentionDays < 1 then
    .error (.builtin "ValueError" "exceptionAnalyticsProjectionRetentionDays must be at least 1")
  else if hbatch : purgeBatchSize < 1 then
    .error (.builtin "ValueError" "exceptionFactPurgeBatchSize must be at least 1")
  else .ok {
    factRetentionDays := factRetentionDays.toNat
    archiveRetentionDays := archiveRetentionDays.toNat
    analyticsProjectionRetentionDays := analyticsProjectionRetentionDays.toNat
    purgeBatchSize := purgeBatchSize.toNat
    factRetentionDays_pos := by omega
    factRetentionDays_le := by omega
    analyticsProjectionRetentionDays_pos := by omega
    purgeBatchSize_pos := by omega }

/-- `fact_cutoff`. A time without a zone is taken in UTC. -/
def ExceptionRetentionPolicy.factCutoff (policy : ExceptionRetentionPolicy) (now : Datetime) :
    Except PyError ℤ :=
  let value := now.microseconds - policy.factRetentionDays * 86400000000
  if policy.factRetentionDays ≤ 999999999 ∧ Datetime.InRange value then .ok value
  else .error (.builtin "OverflowError" "date value out of range")

/-- A cutoff is a `datetime`. -/
theorem inRange_of_factCutoff {policy : ExceptionRetentionPolicy} {now : Datetime} {cutoff : ℤ}
    (h : policy.factCutoff now = .ok cutoff) : Datetime.InRange cutoff := by
  rw [ExceptionRetentionPolicy.factCutoff] at h
  split at h
  · rename_i hrange
    rw [← Except.ok.inj h]
    exact hrange.2
  · cases h

/-! ### Deleting -/

section Deleting

variable [PyIsoDatetime]

def InScope (scope : Option Text) (record : ViolationRecord) : Prop :=
  (nonBlank (scope.getD [])).all fun id => decide (Text.strip record.dataObjectVersionId = id)

instance (scope : Option Text) (record : ViolationRecord) : Decidable (InScope scope record) :=
  inferInstanceAs (Decidable (_ = true))

/-- The condition of the comprehension in `delete_violations_detected_before`. -/
def isEligible (cutoff : ℤ) (scope : Option Text) (record : ViolationRecord) :
    Except PyError Bool := do
  match ← parseIsoDatetime (some record.detectedAt) with
  | none => return false
  | some detectedAt => return decide (detectedAt < cutoff) && decide (InScope scope record)

def deletionKey (entry : (Text × Text) × ViolationRecord) : Text ×ₗ Text ×ₗ Text :=
  toLex (entry.2.detectedAt, toLex entry.1)

/-- `self._violations.pop(key, None)`. -/
def popViolation (store : ViolationStore) (key : Text × Text) : ViolationStore :=
  store.filter fun entry => entry.1 ≠ key

def eligibleKeys (store : ViolationStore) (cutoff : ℤ) (scope : Option Text) :
    Except PyError (List (Text × Text)) :=
  Collect.collect (fun entry =>
      (isEligible cutoff scope entry.2).map fun eligible => if eligible then some entry.1 else none)
    none 0 (Sorted.sortOn deletionKey store)

def deleteViolationsDetectedBefore (detectedBefore : Text) (limit : ℤ) (scope : Option Text)
    (store : ViolationStore) : Except PyError (ℕ × ViolationStore) := do
  match ← parseIsoDatetime (some detectedBefore) with
  | none => .error (.builtin "ValueError" "detected_before is required")
  | some cutoff =>
    if limit ≤ 0 then .error (.builtin "ValueError" "limit must be positive")
    else
      let keys := (← eligibleKeys store cutoff scope).take limit.toNat
      return (keys.length, keys.foldl popViolation store)

/-! ### The purge -/

/-- `_purge_repository_exception_facts`, with fuel for its loop. Its callers give no scope, or the id
of a data object version. -/
def purgeExceptionFacts (policy : ExceptionRetentionPolicy) (now : Datetime) (scope : Option Text)
    (fuel : ℕ) (store : ViolationStore) : Option (Except PyError ℕ × ViolationStore) :=
  match policy.factCutoff now with
  | .error exc => some (.error exc, store)
  | .ok cutoff =>
    Drain.drain (deleteViolationsDetectedBefore (formatIsoDatetime cutoff) policy.purgeBatchSize
      scope) policy.purgeBatchSize fuel 0 store

/-! ### The law -/

/-- The time of a violation can be read; it may be blank. -/
def Readable (record : ViolationRecord) : Prop :=
  ∃ detectedAt, parseIsoDatetime (some record.detectedAt) = .ok detectedAt

def Expired (cutoff : ℤ) (scope : Option Text) (record : ViolationRecord) : Prop :=
  (∃ detectedAt, parseIsoDatetime (some record.detectedAt) = .ok (some detectedAt) ∧
    detectedAt < cutoff) ∧ InScope scope record

open Classical in
/-- The purge ended: it removed the expired violations, left the others in their order, and returned
the number of those that it removed. -/
structure Purged (cutoff : ℤ) (scope : Option Text) (store store' : ViolationStore)
    (removed : ℕ) : Prop where
  kept : store' = store.filter fun entry => ¬Expired cutoff scope entry.2
  removed_eq : removed = (store.filter fun entry => Expired cutoff scope entry.2).length

variable {cutoff : ℤ} {scope : Option Text} {store : ViolationStore}

/-- The condition of the comprehension where the time can be read. -/
theorem isEligible_of_readable {record : ViolationRecord} (h : Readable record) (cutoff : ℤ)
    (scope : Option Text) :
    ∃ eligible, isEligible cutoff scope record = .ok eligible ∧
      (eligible = true ↔ Expired cutoff scope record) := by
  obtain ⟨detectedAt, hparse⟩ := h
  cases detectedAt with
  | none =>
    refine ⟨false, by rw [isEligible, hparse]; rfl, iff_of_false nofun ?_⟩
    rintro ⟨⟨detectedAt, hsome, -⟩, -⟩
    rw [hparse] at hsome
    cases hsome
  | some detectedAt =>
    refine ⟨_, by rw [isEligible, hparse]; rfl, ?_⟩
    simp [Expired, hparse]

/-- The condition of the comprehension fails where the time cannot be read, in any scope. -/
theorem isEligible_of_not_readable {record : ViolationRecord} (h : ¬Readable record) (cutoff : ℤ)
    (scope : Option Text) :
    ∃ e, isEligible cutoff scope record = .error e := by
  rw [isEligible]
  cases hparse : parseIsoDatetime (some record.detectedAt) with
  | error e => exact ⟨e, rfl⟩
  | ok detectedAt => exact absurd ⟨detectedAt, hparse⟩ h

/-! ### One batch -/

omit [PyIsoDatetime] in
theorem foldl_popViolation (keys : List (Text × Text)) (store : ViolationStore) :
    keys.foldl popViolation store = Drain.eraseKeys keys store := by
  induction keys generalizing store with
  | nil => simp [Drain.eraseKeys]
  | cons key keys ih =>
    rw [List.foldl_cons, ih, Drain.eraseKeys, popViolation, List.filter_filter]
    apply List.filter_congr
    intro entry _
    simp [Bool.and_comm]

open Classical in
/-- The keys of a batch where every time can be read. -/
theorem eligibleKeys_of_readable (hreadable : ∀ entry ∈ store, Readable entry.2) :
    eligibleKeys store cutoff scope = .ok (((Sorted.sortOn deletionKey store).filter fun entry =>
      decide (Expired cutoff scope entry.2)).map Prod.fst) := by
  rw [← List.filterMap_eq_map, ← List.filterMap_eq_filter, List.filterMap_filterMap]
  apply Collect.collect_eq_filterMap
  intro entry hentry
  obtain ⟨eligible, heligible, hiff⟩ :=
    isEligible_of_readable (hreadable entry (Sorted.mem_sortOn.mp hentry)) cutoff scope
  rw [heligible]
  cases eligible with
  | true => simp [Except.map, Option.guard, hiff.mp rfl]
  | false => simp [Except.map, Option.guard, mt hiff.mpr Bool.false_ne_true]

/-- The keys of a batch are found only where every time can be read. -/
theorem readable_of_eligibleKeys {keys : List (Text × Text)}
    (h : eligibleKeys store cutoff scope = .ok keys) : ∀ entry ∈ store, Readable entry.2 := by
  intro entry hentry
  by_contra hunreadable
  obtain ⟨e, herror⟩ := isEligible_of_not_readable hunreadable cutoff scope
  have hreached := Collect.reached_of_collect h
  have hmem : entry ∈ Sorted.sortOn deletionKey store := Sorted.mem_sortOn.mpr hentry
  rw [← hreached] at hmem
  have hok := List.mem_takeWhile_imp hmem
  simp only [herror] at hok
  cases hok

theorem deleteViolationsDetectedBefore_eq {size : ℕ} (hcutoff : Datetime.InRange cutoff)
    (hsize : 0 < size) (scope : Option Text) (store : ViolationStore) :
    deleteViolationsDetectedBefore (formatIsoDatetime cutoff) size scope store =
      (eligibleKeys store cutoff scope).map fun keys =>
        ((keys.take size).length, Drain.eraseKeys (keys.take size) store) := by
  rw [deleteViolationsDetectedBefore, parseIsoDatetime_formatIsoDatetime hcutoff]
  simp only [ok_bind]
  rw [if_neg (by omega)]
  cases eligibleKeys store cutoff scope with
  | error e => rfl
  | ok keys =>
    simp only [ok_bind, foldl_popViolation]
    rfl

/-! ### The purge -/

/-- What the batches keep: a store without repeated keys, whose times can be read. -/
def Purgeable (store : ViolationStore) : Prop :=
  (store.map Prod.fst).Nodup ∧ ∀ entry ∈ store, Readable entry.2

open Classical in
/-- A batch takes from the expired violations. -/
theorem deleteViolationsDetectedBefore_takes {size : ℕ} (hcutoff : Datetime.InRange cutoff)
    (hsize : 0 < size) (hstore : Purgeable store) :
    let expired : (Text × Text) × ViolationRecord → Bool := fun entry =>
      decide (Expired cutoff scope entry.2)
    ∃ done store', deleteViolationsDetectedBefore (formatIsoDatetime cutoff) size scope store =
        .ok (done, store') ∧
      Drain.Takes (List.countP expired) size
        (fun s s' => s'.filter (!expired ·) = s.filter (!expired ·)) store store' done ∧
      Purgeable store' := by
  intro expired
  refine ⟨_, _, ?_, Drain.takes_eraseKeys size (Sorted.sortOn_perm deletionKey store) hstore.1, ?_⟩
  · rw [deleteViolationsDetectedBefore_eq hcutoff hsize, eligibleKeys_of_readable hstore.2]
    rfl
  · have hsublist := Drain.eraseKeys_sublist
      ((((Sorted.sortOn deletionKey store).filter expired).map Prod.fst).take size) store
    exact ⟨hstore.1.sublist (hsublist.map _), fun entry h => hstore.2 entry (hsublist.mem h)⟩

variable {policy : ExceptionRetentionPolicy} {now : Datetime}

/-- Where every time can be read, the purge ends and removes the expired violations. -/
theorem purged_of_readable (hcutoff : policy.factCutoff now = .ok cutoff)
    (hstore : Purgeable store) (scope : Option Text) :
    ∃ fuel removed store', purgeExceptionFacts policy now scope fuel store =
      some (.ok removed, store') ∧ Purged cutoff scope store store' removed := by
  classical
  let expired : (Text × Text) × ViolationRecord → Bool := fun entry =>
    decide (Expired cutoff scope entry.2)
  obtain ⟨store', hdrain, hnone, hkept⟩ := Drain.drain_spec
    (fun s s' : ViolationStore => s'.filter (!expired ·) = s.filter (!expired ·))
    policy.purgeBatchSize_pos (fun _ _ _ h h' => h'.trans h)
    (fun store hstore => deleteViolationsDetectedBefore_takes (inRange_of_factCutoff hcutoff)
      policy.purgeBatchSize_pos hstore) 0 hstore (Nat.lt_succ_self _)
  refine ⟨store.countP expired + 1, store.countP expired, store', ?_, ?_, ?_⟩
  · rw [purgeExceptionFacts, hcutoff]
    rw [Nat.zero_add] at hdrain
    exact hdrain
  · -- nothing expired is left, so what is left was kept
    rw [List.countP_eq_zero] at hnone
    have hself : store'.filter (!expired ·) = store' :=
      List.filter_eq_self.mpr fun entry hentry => by
        simpa [expired] using hnone entry hentry
    rw [← hself, hkept]
    simp [expired]
  · exact List.countP_eq_length_filter

/-- The purge does what it should exactly where every stored time can be read. -/
theorem purges_iff_readable (hcutoff : policy.factCutoff now = .ok cutoff)
    (hkeys : (store.map Prod.fst).Nodup) (scope : Option Text) :
    (∃ fuel removed store', purgeExceptionFacts policy now scope fuel store =
      some (.ok removed, store') ∧ Purged cutoff scope store store' removed) ↔
    ∀ entry ∈ store, Readable entry.2 := by
  constructor
  · rintro ⟨fuel, removed, store', hpurge, -⟩
    rw [purgeExceptionFacts, hcutoff] at hpurge
    cases hfound : eligibleKeys store cutoff scope with
    | ok keys => exact readable_of_eligibleKeys hfound
    | error e =>
      refine absurd hpurge (Drain.drain_ne_ok (e := e) ?_)
      rw [deleteViolationsDetectedBefore_eq (inRange_of_factCutoff hcutoff)
        policy.purgeBatchSize_pos, hfound]
      rfl
  · exact fun hreadable => purged_of_readable hcutoff ⟨hkeys, hreadable⟩ scope

end Deleting

/-! ### One policy -/

section Samples

local instance sampleDatetimePurge : PyIsoDatetime := .strict

/-- A policy that keeps violations for one day. -/
def oneDay : ExceptionRetentionPolicy where
  factRetentionDays := 1
  archiveRetentionDays := 1
  analyticsProjectionRetentionDays := 1
  purgeBatchSize := 1
  factRetentionDays_pos := Nat.one_pos
  factRetentionDays_le := by decide
  analyticsProjectionRetentionDays_pos := Nat.one_pos
  purgeBatchSize_pos := Nat.one_pos

theorem factCutoff_oneDay : oneDay.factCutoff ⟨86400000005, true⟩ = .ok 5 := by
  simp [ExceptionRetentionPolicy.factCutoff, oneDay, Datetime.InRange]

/-- A stored violation of a data object version, with its time. -/
def storedAt (dataObjectVersionId detectedAt : String) : (Text × Text) × ViolationRecord :=
  ((dataObjectVersionId.toList, "v"), {
    id := "v", dataObjectVersionId := dataObjectVersionId.toList
    executionRunId := "run", ruleId := "rule", dataPrimaryKey := "1"
    violationReason := "null", opsMetadata := [], detectedAt := detectedAt.toList
    createdAt := detectedAt.toList, updatedAt := detectedAt.toList })

/-- A violation whose time is not an ISO text stops the purge of another data object version. -/
theorem unreadable_stops_purge :
    oneDay.factCutoff ⟨86400000005, true⟩ = .ok 5 ∧
    ¬∃ fuel removed store', purgeExceptionFacts oneDay ⟨86400000005, true⟩ (some "a") fuel
        [storedAt "b" "yesterday"] = some (.ok removed, store') ∧
      Purged 5 (some "a") [storedAt "b" "yesterday"] store' removed := by
  refine ⟨factCutoff_oneDay, ?_⟩
  rintro ⟨fuel, removed, store', hpurge, -⟩
  have hdelete : deleteViolationsDetectedBefore (formatIsoDatetime 5) (1 : ℕ) (some "a")
      [storedAt "b" "yesterday"] =
    .error (.builtin "ValueError" "Invalid isoformat string") := by rfl
  rw [purgeExceptionFacts, factCutoff_oneDay] at hpurge
  exact Drain.drain_ne_ok hdelete hpurge

/-- Of two violations, the one that was detected more than a day before is removed. -/
theorem purges_iff_readable_sample :
    ∃ fuel removed store', purgeExceptionFacts oneDay ⟨86400000005, true⟩ none fuel
        [storedAt "a" "1970-01-01T00:00:00.000003+00:00",
          storedAt "b" "1970-01-01T00:00:00.000007+00:00"] = some (.ok removed, store') ∧
      Purged 5 none [storedAt "a" "1970-01-01T00:00:00.000003+00:00",
        storedAt "b" "1970-01-01T00:00:00.000007+00:00"] store' removed := by
  refine (purges_iff_readable factCutoff_oneDay (by decide) none).mpr ?_
  intro entry hentry
  rcases List.mem_pair.mp hentry with rfl | rfl
  · exact ⟨some 3, by rfl⟩
  · exact ⟨some 7, by rfl⟩

end Samples

end Exceptions

end DqMadeEasy
