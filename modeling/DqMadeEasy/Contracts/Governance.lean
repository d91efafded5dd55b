import Mathlib.Data.List.Lex
import Mathlib.Data.Char
import DqMadeEasy.Contracts.Snapshot
import DqMadeEasy.Logic.Sorted

/-!
# Changes and conformance of contracts

Two snapshots are compared field by field, and each change is breaking, compatible or additive. An
observed schema conforms to a snapshot unless a required field is missing or may be null, or a field
has another type. A step without breaking changes keeps conformance up to the types of the fields
that it adds, for which the step before had no say.
-/

namespace DqMadeEasy

namespace Contracts

/-! ### The comparison -/

/-- `severity` of a change. -/
inductive Severity where
  | breaking | additive | compatible
  deriving DecidableEq

/-- `change_type`. -/
inductive ChangeType where
  | removed | added | modified
  deriving DecidableEq

/-- A change of a field. -/
structure Change where
  fieldName : Text
  changeType : ChangeType
  severity : Severity
  message : Text
  previous : Option ContractField
  current : Option ContractField

/-- `change_classification`. -/
inductive Classification where
  | breaking | additive | compatible | identical
  deriving DecidableEq

/-- The changes and their counters. -/
structure Counted where
  changes : List Change := []
  breakingCount : ℕ := 0
  compatibleCount : ℕ := 0
  additiveCount : ℕ := 0

/-- A removed field is breaking. -/
def Counted.noteRemoved (d : Counted) (entry : Text × ContractField) : Counted :=
  { d with
    breakingCount := d.breakingCount + 1
    changes := d.changes ++ [⟨entry.1, .removed, .breaking,
      "Field '" ++ entry.1 ++ "' was removed", some entry.2, none⟩] }

/-- An added field is counted as additive, and one that is required as breaking too. -/
def Counted.noteAdded (d : Counted) (entry : Text × ContractField) : Counted :=
  let severity := if entry.2.required then Severity.breaking else .additive
  { d with
    additiveCount := d.additiveCount + 1
    breakingCount := if severity = .breaking then d.breakingCount + 1 else d.breakingCount
    changes := d.changes ++ [⟨entry.1, .added, severity,
      "Field '" ++ entry.1 ++ "' was added", none, some entry.2⟩] }

section Comparing

variable [PyRuntime]

def typesDiffer (field field' : ContractField) : Bool :=
  decide (normalizeLogicalType field.logicalType ≠ normalizeLogicalType field'.logicalType)

/-- `field_changes`: what changed in a field, with whether that is breaking. -/
def fieldChanges (previous current : ContractField) : List (Text × Bool) :=
  [(typesDiffer previous current, "logical type changed from " ++ previous.logicalType ++
      " to " ++ current.logicalType, true),
    (previous.nullable && !current.nullable, "field became non-nullable", true),
    (!previous.required && current.required, "field became required", true),
    (previous.required && !current.required, "field became optional", false),
    (!previous.nullable && current.nullable, "field became nullable", false),
    (decide (previous.classification ≠ current.classification),
      "classification changed from " ++ previous.classification ++ " to " ++
        current.classification, false),
    (decide (previous.description ≠ current.description), "description changed", false)
  ].filterMap fun check => if check.1 then some check.2 else none

/-- A field of both snapshots is breaking or compatible where anything changed. -/
def Counted.noteModified (d : Counted) (name : Text) (previous current : ContractField) : Counted :=
  let changed := fieldChanges previous current
  let severity := if changed.any Prod.snd then Severity.breaking else .compatible
  if changed = [] then d
  else { d with
    breakingCount := if severity = .breaking then d.breakingCount + 1 else d.breakingCount
    compatibleCount := if severity = .breaking then d.compatibleCount else d.compatibleCount + 1
    changes := d.changes ++ [⟨name, .modified, severity,
      Text.join "; " (changed.map Prod.fst), some previous, some current⟩] }

/-- One turn of the loop over the fields of the current snapshot. -/
def Counted.noteCurrent (previousFields : FieldMap) (d : Counted)
    (entry : Text × ContractField) :
    Counted :=
  match Assoc.find? previousFields entry.1 with
  | none => d.noteAdded entry
  | some previous => d.noteModified entry.1 previous entry.2

/-- The two loops of `diff_contract_snapshots`. -/
def countChanges (previousFields currentFields : FieldMap) : Counted :=
  let removed := (Sorted.sortOn Prod.fst previousFields).filter fun entry =>
    decide (entry.1 ∉ Assoc.keys currentFields)
  (Sorted.sortOn Prod.fst currentFields).foldl (Counted.noteCurrent previousFields)
    (removed.foldl Counted.noteRemoved {})

omit [PyRuntime] in
/-- `change_classification` of the counters. -/
def Counted.classification (d : Counted) : Classification :=
  if 0 < d.breakingCount then .breaking
  else if 0 < d.additiveCount then .additive
  else if 0 < d.compatibleCount then .compatible
  else .identical

/-- What `diff_contract_snapshots` returns. -/
structure ContractDiff where
  previousVersion : Text
  currentVersion : Text
  changeClassification : Classification
  breakingChanges : ℕ
  compatibleChanges : ℕ
  additiveChanges : ℕ
  totalChanges : ℕ
  changes : List Change

def diffContractSnapshots (previous current : ContractSnapshot) : ContractDiff :=
  let d := countChanges (fieldMap previous.fields) (fieldMap current.fields)
  { previousVersion := previous.version
    currentVersion := current.version
    changeClassification := d.classification
    breakingChanges := d.breakingCount
    compatibleChanges := d.compatibleCount
    additiveChanges := d.additiveCount
    totalChanges := d.changes.length
    changes := d.changes }

/-! ### Conformance -/

/-- `severity` of an issue. -/
inductive IssueSeverity where
  | breaking | warning
  deriving DecidableEq

/-- An issue of an observed schema. -/
structure Issue where
  fieldName : Text
  issueType : String
  severity : IssueSeverity
  message : Text

/-- The issues of a field of the contract. -/
def fieldIssues (observedFields : FieldMap) (entry : Text × ContractField) : List Issue :=
  match Assoc.find? observedFields entry.1 with
  | none =>
    if entry.2.required then
      [⟨entry.1, "missing_required_field", .breaking, "Required field '" ++ entry.1 ++
        "' is missing from the observed schema"⟩]
    else
      [⟨entry.1, "missing_optional_field", .warning, "Optional field '" ++ entry.1 ++
        "' is missing from the observed schema"⟩]
  | some observed =>
    (if typesDiffer entry.2 observed then
      [⟨entry.1, "logical_type_mismatch", .breaking, "Field '" ++ entry.1 ++
        "' has logical type " ++ observed.logicalType ++ " but the contract expects " ++
          entry.2.logicalType⟩]
    else []) ++
    if entry.2.required && observed.nullable then
      [⟨entry.1, "nullable_mismatch", .breaking, "Field '" ++ entry.1 ++
        "' is nullable in the observed schema but required by the contract"⟩]
    else []

omit [PyRuntime] in
def undocumentedIssue (entry : Text × ContractField) : Issue :=
  ⟨entry.1, "undocumented_field", .warning, "Field '" ++ entry.1 ++
    "' exists in the observed schema but is not defined by the contract"⟩

/-- What `validate_contract_conformance` returns. -/
structure Conformance where
  ok : Bool
  breakingIssues : ℕ
  warningIssues : ℕ
  totalIssues : ℕ
  issues : List Issue

/-- `validate_contract_conformance`. Each issue is counted under its severity. -/
def validateContractConformance (contract : ContractSnapshot)
    (observedFields : List ContractField) : Conformance :=
  let contractFields := fieldMap contract.fields
  let observed := fieldMap observedFields
  let undocumented := (Sorted.sortOn Prod.fst observed).filter fun entry =>
    decide (entry.1 ∉ Assoc.keys contractFields)
  let issues := (Sorted.sortOn Prod.fst contractFields).flatMap (fieldIssues observed) ++
    undocumented.map undocumentedIssue
  let breakingIssues := issues.countP fun issue => issue.severity = .breaking
  { ok := decide (breakingIssues = 0)
    breakingIssues := breakingIssues
    warningIssues := issues.countP fun issue => issue.severity = .warning
    totalIssues := issues.length
    issues := issues }

/-! ### What the counters count -/

def breaksField (previous current : ContractField) : Bool :=
  (fieldChanges previous current).any Prod.snd

def breaks (previousFields : FieldMap) (entry : Text × ContractField) : Bool :=
  match Assoc.find? previousFields entry.1 with
  | none => entry.2.required
  | some previous => breaksField previous entry.2

/-- A field of the current snapshot is counted as compatible. -/
def adjusts (previousFields : FieldMap) (entry : Text × ContractField) : Bool :=
  match Assoc.find? previousFields entry.1 with
  | none => false
  | some previous =>
    decide (fieldChanges previous entry.2 ≠ []) && !breaksField previous entry.2

omit [PyRuntime] in
/-- A field of the current snapshot is counted as additive. -/
def adds (previousFields : FieldMap) (entry : Text × ContractField) : Bool :=
  (Assoc.find? previousFields entry.1).isNone

omit [PyRuntime] in
/-- A counter that every turn of a loop adds a condition to counts the items that meet it. -/
theorem counter_foldl {σ α : Type} {step : σ → α → σ} (counter : σ → ℕ) (p : α → Bool)
    (h : ∀ s a, counter (step s a) = counter s + (p a).toNat) (xs : List α) (s : σ) :
    counter (xs.foldl step s) = counter s + xs.countP p := by
  induction xs generalizing s with
  | nil => rfl
  | cons a xs ih =>
    rw [List.foldl_cons, ih, h, List.countP_cons]
    cases p a with
    | false => simp
    | true =>
      simp only [Bool.toNat_true, if_true]
      omega

variable {previousFields currentFields : FieldMap}

theorem breakingCount_noteCurrent (previousFields : FieldMap) (d : Counted)
    (entry : Text × ContractField) :
    (d.noteCurrent previousFields entry).breakingCount =
      d.breakingCount + (breaks previousFields entry).toNat := by
  rw [Counted.noteCurrent, breaks]
  cases Assoc.find? previousFields entry.1 with
  | none => cases h : entry.2.required <;> simp [Counted.noteAdded, h]
  | some previous =>
    simp only [Counted.noteModified, breaksField]
    split
    · rename_i hnone
      simp [hnone]
    · cases h : (fieldChanges previous entry.2).any Prod.snd <;> simp

theorem compatibleCount_noteCurrent (previousFields : FieldMap) (d : Counted)
    (entry : Text × ContractField) :
    (d.noteCurrent previousFields entry).compatibleCount =
      d.compatibleCount + (adjusts previousFields entry).toNat := by
  rw [Counted.noteCurrent, adjusts]
  cases Assoc.find? previousFields entry.1 with
  | none => rfl
  | some previous =>
    simp only [Counted.noteModified, breaksField]
    split
    · rename_i hnone
      simp [hnone]
    · rename_i hsome
      cases h : (fieldChanges previous entry.2).any Prod.snd <;> simp [hsome]

theorem additiveCount_noteCurrent (previousFields : FieldMap) (d : Counted)
    (entry : Text × ContractField) :
    (d.noteCurrent previousFields entry).additiveCount =
      d.additiveCount + (adds previousFields entry).toNat := by
  rw [Counted.noteCurrent, adds]
  cases Assoc.find? previousFields entry.1 with
  | none => rfl
  | some previous =>
    simp only [Counted.noteModified]
    split <;> rfl

theorem length_changes_noteCurrent (previousFields : FieldMap) (d : Counted)
    (entry : Text × ContractField) :
    (d.noteCurrent previousFields entry).changes.length =
      d.changes.length + (adds previousFields entry ||
        (breaks previousFields entry || adjusts previousFields entry)).toNat := by
  rw [Counted.noteCurrent, adds, breaks, adjusts]
  cases Assoc.find? previousFields entry.1 with
  | none => simp [Counted.noteAdded]
  | some previous =>
    simp only [Counted.noteModified, breaksField]
    split
    · rename_i hnone
      simp [hnone]
    · rename_i hsome
      simp [hsome]

omit [PyRuntime] in
def removedCount (previousFields currentFields : FieldMap) : ℕ :=
  previousFields.countP fun entry => decide (entry.1 ∉ Assoc.keys currentFields)

/-- What the counters of a comparison are. -/
structure Counts (previousFields currentFields : FieldMap) (d : Counted) : Prop where
  breaking : d.breakingCount = removedCount previousFields currentFields +
    currentFields.countP (breaks previousFields)
  compatible : d.compatibleCount = currentFields.countP (adjusts previousFields)
  additive : d.additiveCount = currentFields.countP (adds previousFields)
  total : d.changes.length = removedCount previousFields currentFields +
    currentFields.countP fun entry => adds previousFields entry ||
      (breaks previousFields entry || adjusts previousFields entry)

omit [PyRuntime] in
/-- The loop over the removed fields counts each as breaking, and nothing else. -/
theorem foldl_noteRemoved (removed : FieldMap) (d : Counted) :
    (removed.foldl Counted.noteRemoved d).breakingCount = d.breakingCount + removed.length ∧
      (removed.foldl Counted.noteRemoved d).compatibleCount = d.compatibleCount ∧
      (removed.foldl Counted.noteRemoved d).additiveCount = d.additiveCount ∧
      (removed.foldl Counted.noteRemoved d).changes.length = d.changes.length + removed.length := by
  induction removed generalizing d with
  | nil => exact ⟨rfl, rfl, rfl, rfl⟩
  | cons entry removed ih =>
    obtain ⟨hbreaking, hcompatible, hadditive, htotal⟩ := ih (d.noteRemoved entry)
    rw [List.foldl_cons, hbreaking, hcompatible, hadditive, htotal]
    refine ⟨?_, rfl, rfl, ?_⟩
    · simp only [Counted.noteRemoved, List.length_cons]
      omega
    · simp only [Counted.noteRemoved, List.length_append, List.length_cons, List.length_nil]
      omega

theorem counts_countChanges (previousFields currentFields : FieldMap) :
    Counts previousFields currentFields (countChanges previousFields currentFields) := by
  have hperm := Sorted.sortOn_perm Prod.fst currentFields
  let removed := (Sorted.sortOn Prod.fst previousFields).filter fun entry =>
    decide (entry.1 ∉ Assoc.keys currentFields)
  have hremoved : removed.length = removedCount previousFields currentFields := by
    rw [removedCount, ← (Sorted.sortOn_perm Prod.fst previousFields).countP_eq,
      List.countP_eq_length_filter]
  obtain ⟨hbreaking, hcompatible, hadditive, htotal⟩ := foldl_noteRemoved removed {}
  constructor
  · rw [countChanges, counter_foldl Counted.breakingCount _ (breakingCount_noteCurrent _),
      hperm.countP_eq, hbreaking, hremoved, Nat.zero_add]
  · rw [countChanges, counter_foldl Counted.compatibleCount _ (compatibleCount_noteCurrent _),
      hperm.countP_eq, hcompatible, Nat.zero_add]
  · rw [countChanges, counter_foldl Counted.additiveCount _ (additiveCount_noteCurrent _),
      hperm.countP_eq, hadditive, Nat.zero_add]
  · have hloop := counter_foldl (fun d : Counted => d.changes.length) _
      (length_changes_noteCurrent previousFields)
      (Sorted.sortOn Prod.fst currentFields) (removed.foldl Counted.noteRemoved {})
    rw [htotal, hremoved, hperm.countP_eq] at hloop
    exact hloop.trans (by simp)

/-! ### Steps without breaking changes -/

theorem counted_once (previousFields : FieldMap) (entry : Text × ContractField) :
    (breaks previousFields entry).toNat + (adjusts previousFields entry).toNat +
        (adds previousFields entry).toNat =
      (adds previousFields entry || (breaks previousFields entry || adjusts previousFields entry)).toNat
        + (adds previousFields entry && entry.2.required).toNat := by
  rw [breaks, adjusts, adds]
  cases Assoc.find? previousFields entry.1 with
  | none => cases entry.2.required <;> rfl
  | some previous =>
    cases hbreaks : breaksField previous entry.2 with
    | true => simp [hbreaks]
    | false => simp [hbreaks]

/-- The sum of the three counters counts an added required field twice. -/
theorem counted_all (previousFields xs : FieldMap) :
    xs.countP (breaks previousFields) + xs.countP (adjusts previousFields) +
        xs.countP (adds previousFields) =
      (xs.countP fun entry => adds previousFields entry ||
        (breaks previousFields entry || adjusts previousFields entry)) +
      xs.countP fun entry => adds previousFields entry && entry.2.required := by
  induction xs with
  | nil => rfl
  | cons entry xs ih =>
    have hentry := counted_once previousFields entry
    have hcount : ∀ p : Text × ContractField → Bool,
        (entry :: xs).countP p = xs.countP p + (p entry).toNat := by
      intro p
      rw [List.countP_cons]
      cases p entry <;> rfl
    rw [hcount, hcount, hcount, hcount, hcount]
    omega

/-- What a comparison reads of a field. -/
def compared (field : ContractField) : Text × Bool × Bool × Text × Option Text :=
  (normalizeLogicalType field.logicalType, field.required, field.nullable, field.classification,
    field.description)

theorem fieldChanges_eq_nil_iff (previous current : ContractField) :
    fieldChanges previous current = [] ↔ compared previous = compared current := by
  rw [fieldChanges, List.filterMap_eq_nil_iff, compared, compared]
  cases previous.nullable <;> cases current.nullable <;> cases previous.required <;>
    cases current.required <;> simp [typesDiffer]

omit [PyRuntime] in
theorem any_snd_checks {α : Type} (checks : List (Bool × α × Bool)) :
    (checks.filterMap fun check => if check.1 then some check.2 else none).any Prod.snd =
      checks.any fun check => check.1 && check.2.2 := by
  induction checks with
  | nil => rfl
  | cons check checks ih =>
    rw [List.filterMap_cons, List.any_cons, ← ih]
    cases check.1 <;> rfl

theorem breaksField_eq_false_iff (previous current : ContractField) :
    breaksField previous current = false ↔
      typesDiffer previous current = false ∧ (current.nullable = false → previous.nullable = false) ∧
        (current.required = true → previous.required = true) := by
  rw [breaksField, fieldChanges, any_snd_checks]
  simp only [List.any_cons, List.any_nil, Bool.and_true, Bool.and_false, Bool.or_false]
  cases typesDiffer previous current <;> cases previous.nullable <;> cases current.nullable <;>
    cases previous.required <;> cases current.required <;> decide

omit [PyRuntime] in
theorem classification_eq_breaking_iff (d : Counted) :
    d.classification = .breaking ↔ 0 < d.breakingCount := by
  rw [Counted.classification]
  split
  · rename_i hbreaking
    exact iff_of_true rfl hbreaking
  · rename_i hbreaking
    apply iff_of_false _ hbreaking
    split
    · exact nofun
    · split <;> exact nofun

omit [PyRuntime] in
theorem classification_eq_identical_iff (d : Counted) :
    d.classification = .identical ↔
      d.breakingCount = 0 ∧ d.additiveCount = 0 ∧ d.compatibleCount = 0 := by
  rw [Counted.classification]
  split
  · exact iff_of_false nofun (by omega)
  · split
    · exact iff_of_false nofun (by omega)
    · split
      · exact iff_of_false nofun (by omega)
      · exact iff_of_true rfl (by omega)

omit [PyRuntime] in
theorem removedCount_eq_zero_iff (previousFields currentFields : FieldMap) :
    removedCount previousFields currentFields = 0 ↔
      ∀ entry ∈ previousFields, entry.1 ∈ Assoc.keys currentFields := by
  rw [removedCount, List.countP_eq_zero]
  simp only [decide_eq_true_eq, not_not]

theorem not_breaking_iff (previousFields currentFields : FieldMap) :
    (countChanges previousFields currentFields).classification ≠ .breaking ↔
      (∀ entry ∈ previousFields, entry.1 ∈ Assoc.keys currentFields) ∧
        ∀ entry ∈ currentFields, breaks previousFields entry = false := by
  rw [ne_eq, classification_eq_breaking_iff, (counts_countChanges ..).breaking, Nat.not_lt,
    Nat.le_zero, Nat.add_eq_zero_iff, removedCount_eq_zero_iff, List.countP_eq_zero]
  simp only [Bool.not_eq_true]

/-- Nothing is counted for an entry that has a compared twin. -/
theorem uncounted_iff (entry : Text × ContractField) :
    (breaks previousFields entry = false ∧ adjusts previousFields entry = false) ∧
        adds previousFields entry = false ↔
      (Assoc.find? previousFields entry.1).map compared = some (compared entry.2) := by
  rw [breaks, adjusts, adds]
  cases hfind : Assoc.find? previousFields entry.1 with
  | none => simp
  | some previous =>
    rw [Option.map_some, Option.some_inj, ← fieldChanges_eq_nil_iff]
    constructor
    · rintro ⟨⟨hbreaks, hadjusts⟩, _⟩
      change breaksField previous entry.2 = false at hbreaks
      change (decide (fieldChanges previous entry.2 ≠ []) && !breaksField previous entry.2) = false
        at hadjusts
      rw [hbreaks, Bool.not_false, Bool.and_true, decide_eq_false_iff_not, not_not] at hadjusts
      exact hadjusts
    · intro hnil
      simp [hnil, breaksField]

/-- A step is identical when the maps have the same names, with fields that compare equal. -/
theorem identical_iff (hprevious : (Assoc.keys previousFields).Nodup)
    (hcurrent : (Assoc.keys currentFields).Nodup) :
    (countChanges previousFields currentFields).classification = .identical ↔
      ∀ name, (Assoc.find? previousFields name).map compared =
        (Assoc.find? currentFields name).map compared := by
  have hcounts := counts_countChanges previousFields currentFields
  rw [classification_eq_identical_iff, hcounts.breaking, hcounts.additive, hcounts.compatible,
    Nat.add_eq_zero_iff, removedCount_eq_zero_iff, List.countP_eq_zero, List.countP_eq_zero,
    List.countP_eq_zero]
  simp only [Bool.not_eq_true]
  have hentry : ∀ entry ∈ currentFields, Assoc.find? currentFields entry.1 = some entry.2 :=
    fun entry hmem => Assoc.find?_of_mem hcurrent hmem
  constructor
  · rintro ⟨⟨hkept, hbreaks⟩, hadds, hadjusts⟩ name
    cases hfind : Assoc.find? currentFields name with
    | some field =>
      have hmem := Assoc.mem_of_find? hfind
      exact (uncounted_iff (name, field)).mp
        ⟨⟨hbreaks _ hmem, hadjusts _ hmem⟩, hadds _ hmem⟩
    | none =>
      cases hfind' : Assoc.find? previousFields name with
      | none => rfl
      | some field =>
        have hmem := hkept _ (Assoc.mem_of_find? hfind')
        exact absurd hmem (Assoc.find?_eq_none_iff.mp hfind)
  · intro heq
    have huncounted : ∀ entry ∈ currentFields,
        (breaks previousFields entry = false ∧ adjusts previousFields entry = false) ∧
          adds previousFields entry = false := by
      intro entry hmem
      rw [uncounted_iff, heq, hentry entry hmem, Option.map_some]
    refine ⟨⟨?_, fun entry hmem => (huncounted entry hmem).1.1⟩,
      fun entry hmem => (huncounted entry hmem).2, fun entry hmem => (huncounted entry hmem).1.2⟩
    intro entry hmem
    by_contra hremoved
    have hname := heq entry.1
    rw [Assoc.find?_of_mem hprevious hmem, Assoc.find?_eq_none_iff.mpr hremoved] at hname
    cases hname

/-! ### Conformance across a step -/

/-- A field of the contract has no breaking issue. -/
def Fits (observedFields : FieldMap) (entry : Text × ContractField) : Prop :=
  match Assoc.find? observedFields entry.1 with
  | none => entry.2.required = false
  | some observed => typesDiffer entry.2 observed = false ∧
      (entry.2.required = true → observed.nullable = false)

theorem fits_iff (observedFields : FieldMap) (entry : Text × ContractField) :
    Fits observedFields entry ↔
      ∀ issue ∈ fieldIssues observedFields entry, issue.severity ≠ .breaking := by
  rw [Fits, fieldIssues]
  cases Assoc.find? observedFields entry.1 with
  | none => cases entry.2.required <;> simp
  | some observed =>
    simp only [List.mem_append, or_imp, forall_and]
    apply and_congr
    · cases typesDiffer entry.2 observed <;> simp
    · cases entry.2.required <;> cases observed.nullable <;> simp

theorem ok_iff (contract : ContractSnapshot) (observedFields : List ContractField) :
    (validateContractConformance contract observedFields).ok = true ↔
      ∀ entry ∈ fieldMap contract.fields, Fits (fieldMap observedFields) entry := by
  simp only [validateContractConformance, decide_eq_true_eq, List.countP_eq_zero, List.mem_append,
    or_imp, forall_and, List.forall_mem_flatMap, List.forall_mem_map, Sorted.mem_sortOn, fits_iff]
  apply and_iff_left
  intro entry _ hbreaking
  cases hbreaking

def AdditionsFit (previousFields currentFields observedFields : FieldMap) : Prop :=
  ∀ name field observed, Assoc.find? previousFields name = none →
    Assoc.find? currentFields name = some field → Assoc.find? observedFields name = some observed →
    typesDiffer field observed = false

/-- A field that did not break fits wherever its former version did. -/
theorem fits_of_not_breaks {observedFields : FieldMap} {name : Text}
    {previous current : ContractField} (hbreaks : breaksField previous current = false)
    (hfits : Fits observedFields (name, previous)) : Fits observedFields (name, current) := by
  obtain ⟨htypes, _, hrequired⟩ := (breaksField_eq_false_iff previous current).mp hbreaks
  rw [Fits] at hfits ⊢
  cases hfind : Assoc.find? observedFields name with
  | none =>
    simp only [hfind] at hfits ⊢
    cases hcurrent : current.required with
    | false => rfl
    | true => rw [hrequired hcurrent] at hfits; cases hfits
  | some observed =>
    simp only [hfind] at hfits ⊢
    constructor
    · rw [typesDiffer, decide_eq_false_iff_not, not_not] at htypes hfits ⊢
      exact htypes.symm.trans hfits.1
    · intro hcurrent
      exact hfits.2 (hrequired hcurrent)

/-- After a step that is not breaking, a schema that conformed conforms unless a field that it has
and that the step adds has another type. -/
theorem ok_iff_additionsFit {previous current : ContractSnapshot}
    {observedFields : List ContractField}
    (hstep : (diffContractSnapshots previous current).changeClassification ≠ .breaking)
    (hok : (validateContractConformance previous observedFields).ok = true) :
    (validateContractConformance current observedFields).ok = true ↔
      AdditionsFit (fieldMap previous.fields) (fieldMap current.fields)
        (fieldMap observedFields) := by
  have hbreaks := ((not_breaking_iff _ _).mp hstep).2
  rw [ok_iff] at hok ⊢
  constructor
  · intro hfits name field observed _ hcurrent hobserved
    have hfit := hfits (name, field) (Assoc.mem_of_find? hcurrent)
    rw [Fits] at hfit
    simp only [hobserved] at hfit
    exact hfit.1
  · rintro hadditions ⟨name, field⟩ hmem
    have hcurrent := Assoc.find?_of_mem (nodup_keys_fieldMap current.fields) hmem
    have hbreak := hbreaks _ hmem
    rw [breaks] at hbreak
    cases hprevious : Assoc.find? (fieldMap previous.fields) name with
    | some former =>
      simp only [hprevious] at hbreak
      exact fits_of_not_breaks hbreak (hok _ (Assoc.mem_of_find? hprevious))
    | none =>
      simp only [hprevious] at hbreak
      rw [Fits]
      cases hobserved : Assoc.find? (fieldMap observedFields) name with
      | none => simpa only [hobserved] using hbreak
      | some observed =>
        refine ⟨hadditions name field observed hprevious hcurrent hobserved, ?_⟩
        intro hrequired
        rw [hbreak] at hrequired
        cases hrequired

end Comparing

section Sample

local instance sampleRuntimeContracts : PyRuntime := .ascii (fun _ => .nan) (fun _ => [])

local instance sampleNumeralsContracts : PyNumerals := ⟨fun _ => none, fun _ => none, id⟩

def oneField (entries : List (String × Json)) : ContractSnapshot :=
  buildCanonicalContractSnapshot [("schema", .dict [("properties",
    .list [.dict (entries.map fun entry => (entry.1.toList, entry.2))])])]

end Sample

end Contracts

end DqMadeEasy
