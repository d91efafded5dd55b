import DqMadeEasy.Exceptions.Projection

/-!
# The summaries of the store and of the projection

The store is summarised record by record and the projection row by row. The summaries agree where a
query does not tell the records of one row apart, but the projection has the trends of the hours
where no buckets are asked for, and the store has none.
-/

namespace DqMadeEasy

namespace Exceptions

open Runs Worker

section Facts

variable [PyRuntime] [PyIsoDatetime] [PySha256]

/-! ### Records -/

omit [PyRuntime] [PyIsoDatetime] [PySha256] in
def ExceptionFact.place (fact : ExceptionFact) (bucket : Option Text) : Place :=
  ⟨fact.ruleId.text, fact.dataObjectVersionId.text, fact.reasonCode.text, fact.reasonText.text,
    bucket⟩

namespace Selection

omit [PyRuntime] [PyIsoDatetime] [PySha256] in
def asksFor (w : Selection) (fact : ExceptionFact) : Bool :=
  decide (fact.dataObjectVersionId.text ∈ w.scopeIds) && w.acceptsReason fact.reasonCode.text

omit [PyRuntime] [PyIsoDatetime] [PySha256] in
/-- Whether a query counts a record. -/
def counts (w : Selection) (fact : ExceptionFact) : Bool :=
  w.asksFor fact && decide (fact.executionRunId.text ∈ w.runIds) &&
    w.inWindow (some fact.detectedAt)

omit [PySha256] in
def bucketOf (w : Selection) (detectedAt : ℤ) : Option Text :=
  w.buckets.bind fun buckets => (buckets.startOf buckets.rowStart detectedAt).toOption

omit [PySha256] in
def occurrenceOf (w : Selection) (fact : ExceptionFact) : Occurrence where
  place := fact.place (w.bucketOf fact.detectedAt)
  runIds := [fact.executionRunId.text]
  count := 1

omit [PySha256] in
/-- A query does not tell two records apart. -/
def SeesAlike (w : Selection) (fact fact' : ExceptionFact) : Prop :=
  fact.place none = fact'.place none ∧
    (fact.executionRunId.text ∈ w.runIds ↔ fact'.executionRunId.text ∈ w.runIds) ∧
    w.inWindow (some fact.detectedAt) = w.inWindow (some fact'.detectedAt) ∧
    w.bucketOf fact.detectedAt = w.bucketOf fact'.detectedAt

instance (w : Selection) (fact fact' : ExceptionFact) : Decidable (w.SeesAlike fact fact') := by
  unfold SeesAlike
  infer_instance

def Uncut (w : Selection) (facts : List ExceptionFact) : Prop :=
  ∀ fact ∈ facts, ∀ fact' ∈ facts, fact.projectionKey = fact'.projectionKey →
    w.asksFor fact = true → w.SeesAlike fact fact'

instance (w : Selection) (facts : List ExceptionFact) : Decidable (w.Uncut facts) := by
  unfold Uncut
  infer_instance

omit [PySha256] in
def ExactBuckets (w : Selection) : Prop := ∀ buckets ∈ w.buckets, buckets.Exact

instance (w : Selection) : Decidable w.ExactBuckets := by
  unfold ExactBuckets
  infer_instance

variable {w : Selection} {facts : List ExceptionFact} {fact fact' : ExceptionFact}

omit [PySha256] [PyRuntime] [PyIsoDatetime] in
theorem asksFor_congr (h : fact.place none = fact'.place none) :
    w.asksFor fact = w.asksFor fact' := by
  have hversion : fact.dataObjectVersionId.text = fact'.dataObjectVersionId.text :=
    congrArg Place.dataObjectVersionId h
  have hreason : fact.reasonCode.text = fact'.reasonCode.text := congrArg Place.reasonCode h
  rw [asksFor, asksFor, hversion, hreason]

omit [PySha256] in
theorem SeesAlike.counts_eq (h : w.SeesAlike fact fact') : w.counts fact = w.counts fact' := by
  obtain ⟨hplace, hrun, hwindow, -⟩ := h
  rw [counts, counts, asksFor_congr hplace, hwindow, decide_eq_decide.mpr hrun]

omit [PySha256] in
theorem SeesAlike.place_eq (h : w.SeesAlike fact fact') :
    (w.occurrenceOf fact).place = (w.occurrenceOf fact').place := by
  obtain ⟨hplace, -, -, hbucket⟩ := h
  have hplace' := congrArg (fun place : Place => { place with bucket := w.bucketOf fact.detectedAt })
    hplace
  rw [occurrenceOf, occurrenceOf, ← hbucket]
  exact hplace'

end Selection

/-! ### The store -/

variable [PyNumerals]

/-- A stored violation has what analytics read of a record. -/
structure Stores (fact : ExceptionFact) (entry : (Text × Text) × ViolationRecord) : Prop where
  scope : entry.1.1 = fact.dataObjectVersionId.text
  detectedAt : parseIsoDatetime (some entry.2.detectedAt) = .ok (some fact.detectedAt)
  dataObjectVersionId : Text.strip entry.2.dataObjectVersionId = fact.dataObjectVersionId.text
  executionRunId : Text.strip entry.2.executionRunId = fact.executionRunId.text
  ruleId : Text.strip entry.2.ruleId = fact.ruleId.text
  reasonCode : keptText entry.2.opsMetadata "reason_code" = fact.reasonCode.text
  reasonText : keptText entry.2.opsMetadata "reason_text" = fact.reasonText.text

omit [PySha256] in
theorem stores_of_normalizes {record : ExceptionRecordCreateEntity} {fact : ExceptionFact}
    {violation : GxExecutionViolationCreateEntity} (now : ℕ) (hfact : ReadsRecord fact record)
    (hviolation : Normalizes record violation) :
    Stores fact (violation.key, violationRecord now violation) where
  scope := hviolation.dataObjectVersionId.trans hfact.dataObjectVersionId.symm
  detectedAt := by
    -- A record with a time is stored with its stripped text.
    have hnonBlank : Text.strip (record.detectedAt.getD []) ≠ [] := by
      intro hblank
      have hread := hfact.detectedAt
      rw [parseIsoDatetime] at hread
      simp only [hblank] at hread
      cases hread
    have htime : (violationRecord now violation).detectedAt =
        Text.strip (record.detectedAt.getD []) := by
      rw [violationRecord, hviolation.detectedAt, nonBlank, if_neg hnonBlank]
      rfl
    rw [htime, parseIsoDatetime_strip]
    exact hfact.detectedAt
  dataObjectVersionId := by
    show Text.strip violation.dataObjectVersionId = _
    rw [hviolation.dataObjectVersionId, Text.strip_strip, hfact.dataObjectVersionId]
  executionRunId := by
    show Text.strip violation.executionRunId = _
    rw [hviolation.executionRunId, Text.strip_strip, hfact.executionRunId]
  ruleId := by
    show Text.strip violation.ruleId = _
    rw [hviolation.ruleId, Text.strip_strip, hfact.ruleId]
  reasonCode := hviolation.reasonCode.trans hfact.reasonCode.symm
  reasonText := hviolation.reasonText.trans hfact.reasonText.symm

omit [PySha256] in
theorem examineViolation_of_stores {w : Selection} {fact : ExceptionFact}
    {entry : (Text × Text) × ViolationRecord} (h : Stores fact entry) :
    examineViolation w entry = .ok
      (if fact.dataObjectVersionId.text ∈ w.scopeIds ∧ fact.executionRunId.text ∈ w.runIds ∧
        w.inWindow (some fact.detectedAt) = true then some entry.2 else none) := by
  rw [examineViolation, h.scope, h.executionRunId, h.detectedAt]
  by_cases hscope : fact.dataObjectVersionId.text ∈ w.scopeIds
  · by_cases hrun : fact.executionRunId.text ∈ w.runIds
    · simp [hscope, hrun, pure, Except.pure]
    · simp [hscope, hrun]
  · simp [hscope]

omit [PySha256] in
theorem occurrenceOfViolation_of_stores {w : Selection} (hexact : w.ExactBuckets)
    {fact : ExceptionFact} {entry : (Text × Text) × ViolationRecord} (h : Stores fact entry) :
    occurrenceOfViolation w entry.2 = .ok
      (if w.acceptsReason fact.reasonCode.text = true then some (w.occurrenceOf fact)
      else none) := by
  have hbucket : w.bucketStart Buckets.violationStart (some fact.detectedAt) =
      .ok (w.bucketOf fact.detectedAt) := by
    cases hbuckets : w.buckets with
    | none => simp only [Selection.bucketStart, Selection.bucketOf, hbuckets, Option.bind_none]
    | some buckets =>
      obtain ⟨start, hviolation, hrow⟩ :=
        (hexact buckets hbuckets).exists_start fact.detectedAt
      simp only [Selection.bucketStart, Selection.bucketOf, hbuckets, Option.bind_some, hviolation,
        hrow]
      rfl
  rw [occurrenceOfViolation, h.reasonCode, h.reasonText, h.ruleId, h.dataObjectVersionId,
    h.executionRunId, h.detectedAt]
  have hmissing : ¬(fact.reasonCode.text = [] ∨ fact.reasonText.text = []) :=
    not_or.mpr ⟨fact.reasonCode.ne_nil, fact.reasonText.ne_nil⟩
  rw [if_neg hmissing]
  by_cases hreason : w.acceptsReason fact.reasonCode.text = true
  · rw [if_neg (by simp [hreason]), if_pos hreason, ok_bind, hbucket, ok_bind]
    dsimp only
    rw [if_neg fact.executionRunId.ne_nil]
    rfl
  · rw [if_pos (by simpa using hreason), if_neg hreason]

omit [PySha256] in
/-- A store is summarised by the occurrences of its records. -/
theorem summarizeViolations_of_stores {w : Selection} (hexact : w.ExactBuckets) {q : SummaryQuery}
    (hselect : q.select = .ok (some w)) {facts : List ExceptionFact} {store : ViolationStore}
    (h : List.Forall₂ Stores facts store) :
    summarizeViolations store q =
      .ok (summaryOf ((facts.filter w.counts).map w.occurrenceOf)) := by
  have hfirst : ∃ kept, Collect.collect (examineViolation w) none 0 store = .ok kept ∧
      List.Forall₂ (fun fact record => ∃ key, Stores fact (key, record))
        (facts.filter fun fact => decide (fact.dataObjectVersionId.text ∈ w.scopeIds ∧
          fact.executionRunId.text ∈ w.runIds ∧ w.inWindow (some fact.detectedAt) = true)) kept := by
    apply Collect.collect_forall₂ ?_ ?_ h
    · intro fact entry hstores hpass
      refine ⟨entry.2, ?_, entry.1, hstores⟩
      rw [examineViolation_of_stores hstores, if_pos (of_decide_eq_true hpass)]
    · intro fact entry hstores hskip
      rw [examineViolation_of_stores hstores, if_neg (of_decide_eq_false hskip)]
  obtain ⟨kept, hkept, hstores⟩ := hfirst
  have hsecond : ∃ os, Collect.collect (occurrenceOfViolation w) none 0 kept = .ok os ∧
      List.Forall₂ (fun fact o => w.occurrenceOf fact = o)
        ((facts.filter fun fact => decide (fact.dataObjectVersionId.text ∈ w.scopeIds ∧
          fact.executionRunId.text ∈ w.runIds ∧ w.inWindow (some fact.detectedAt) = true)).filter
            fun fact => w.acceptsReason fact.reasonCode.text) os := by
    apply Collect.collect_forall₂ ?_ ?_ hstores
    · rintro fact record ⟨key, hstores⟩ hpass
      refine ⟨_, ?_, rfl⟩
      have hoccurrence := occurrenceOfViolation_of_stores hexact hstores
      rwa [if_pos hpass] at hoccurrence
    · rintro fact record ⟨key, hstores⟩ hskip
      have hoccurrence := occurrenceOfViolation_of_stores hexact hstores
      rwa [if_neg (by simp [hskip])] at hoccurrence
  obtain ⟨os, hos, hoccurrences⟩ := hsecond
  have heq : os = (facts.filter w.counts).map w.occurrenceOf := by
    rw [List.forall₂_map_left_iff.symm, List.forall₂_eq_eq_eq] at hoccurrences
    rw [← hoccurrences, List.filter_filter]
    congr 1
    apply List.filter_congr
    intro fact _
    rw [Selection.counts, Selection.asksFor, Bool.eq_iff_iff]
    simp
    tauto
  rw [summarizeViolations, hselect, ok_bind]
  dsimp only
  rw [hkept, ok_bind, hos, ok_bind, heq]
  rfl

/-! ### Rows -/

omit [PyRuntime] [PyNumerals] [PySha256] in
/-- What the row of a group says of its records. -/
structure RowOf (group : List ExceptionFact) (row : ProjectionRow) : Prop where
  place : ∃ fact ∈ group, (⟨row.ruleId, row.dataObjectVersionId, row.reasonCode,
    row.reasonTextSnapshot, none⟩ : Place) = fact.place none ∧
      row.bucketStart = formatIsoDatetime (truncateToHour fact.detectedAt)
  failedRecordCount : row.failedRecordCount = group.length
  executionRunIds : row.executionRunIds = group.map fun fact => fact.executionRunId.text
  detectedAt : ∃ fact ∈ group, row.detectedAt = formatIsoDatetime fact.detectedAt

omit [PyRuntime] [PyNumerals] in
theorem rowOf_gathered {group : List ExceptionFact} {row : ProjectionRow}
    (h : Grouping.gathered ExceptionFact.row ProjectionRow.addFact group = some row) :
    RowOf group row := by
  refine Grouping.gathered_induction (motive := RowOf) ?_ ?_ h
  · intro fact
    exact ⟨⟨fact, List.mem_singleton_self fact, rfl, rfl⟩, rfl, rfl,
      fact, List.mem_singleton_self fact, rfl⟩
  · rintro group row fact ⟨⟨first, hfirst, hplace⟩, hcount, hruns, earliest, hearliest, htime⟩
    refine ⟨⟨first, List.mem_append_left _ hfirst, hplace⟩, ?_, ?_, ?_⟩
    · rw [ProjectionRow.addFact, hcount, List.length_append]
      rfl
    · rw [ProjectionRow.addFact, hruns, List.map_append]
      rfl
    · rw [ProjectionRow.addFact]
      dsimp only
      split
      · exact ⟨fact, List.mem_append_right _ (List.mem_singleton_self fact), rfl⟩
      · exact ⟨earliest, List.mem_append_left _ hearliest, htime⟩

omit [PyRuntime] [PyNumerals] [PyIsoDatetime] [PySha256] in
theorem mem_normalizedTexts_sortedTexts {values : List Text} {t : Text} :
    t ∈ normalizedTexts (sortedTexts values) ↔ t ∈ normalizedTexts values := by
  rw [mem_normalizedTexts]
  simp only [sortedTexts, Sorted.mem_sortOn, List.mem_eraseDups, mem_normalizedTexts]
  constructor
  · rintro ⟨hne, _, ⟨-, value, hvalue, rfl⟩, hstrip⟩
    exact ⟨hne, value, hvalue, (Text.strip_strip value).symm.trans hstrip⟩
  · rintro ⟨hne, value, hvalue, rfl⟩
    exact ⟨hne, _, ⟨hne, value, hvalue, rfl⟩, Text.strip_strip value⟩

omit [PyRuntime] [PyNumerals] [PyIsoDatetime] [PySha256] in
theorem mem_runs_finish {group : List ExceptionFact} {row : ProjectionRow}
    (hruns : row.executionRunIds = group.map fun fact => fact.executionRunId.text) {runId : Text} :
    runId ∈ normalizedTexts row.finish.executionRunIds ↔
      ∃ fact ∈ group, fact.executionRunId.text = runId := by
  show runId ∈ normalizedTexts (sortedTexts row.executionRunIds) ↔ _
  rw [mem_normalizedTexts_sortedTexts, mem_normalizedTexts, hruns]
  constructor
  · rintro ⟨-, value, hvalue, rfl⟩
    obtain ⟨fact, hfact, rfl⟩ := List.mem_map.mp hvalue
    exact ⟨fact, hfact, fact.executionRunId.strip_text.symm⟩
  · rintro ⟨fact, hfact, rfl⟩
    exact ⟨fact.executionRunId.ne_nil, _, List.mem_map_of_mem hfact,
      fact.executionRunId.strip_text⟩

namespace Selection

variable {w : Selection} {group : List ExceptionFact} {row : ProjectionRow}

omit [PyNumerals] [PySha256] in
def Alike (w : Selection) (group : List ExceptionFact) : Prop :=
  ∀ fact ∈ group, ∀ fact' ∈ group, w.asksFor fact = true → w.SeesAlike fact fact'

omit [PyNumerals] [PySha256] in
/-- A row of records that are seen alike is kept if one of them is counted. -/
theorem examineRow_finish (halike : w.Alike group)
    (hrange : ∀ fact ∈ group, Datetime.InRange fact.detectedAt) (hrow : RowOf group row) :
    examineRow w row.finish = .ok (if group.any w.counts then some row.finish else none) := by
  obtain ⟨first, hfirst, hplace, -⟩ := hrow.place
  obtain ⟨earliest, hearliest, htime⟩ := hrow.detectedAt
  have hversion : Text.strip row.finish.dataObjectVersionId = first.dataObjectVersionId.text := by
    rw [← first.dataObjectVersionId.strip_text]
    exact congrArg (fun place : Place => Text.strip place.dataObjectVersionId) hplace
  have hreason : Text.strip row.finish.reasonCode = first.reasonCode.text := by
    rw [← first.reasonCode.strip_text]
    exact congrArg (fun place : Place => Text.strip place.reasonCode) hplace
  have hparse : parseIsoDatetime (some row.finish.detectedAt) = .ok (some earliest.detectedAt) := by
    show parseIsoDatetime (some row.detectedAt) = _
    rw [htime]
    exact parseIsoDatetime_formatIsoDatetime (hrange earliest hearliest)
  have hpass : (first.dataObjectVersionId.text ∈ w.scopeIds ∧
      (¬∀ runId ∈ normalizedTexts row.finish.executionRunIds, runId ∉ w.runIds) ∧
      w.inWindow (some earliest.detectedAt) = true ∧
      w.acceptsReason first.reasonCode.text = true) ↔ group.any w.counts = true := by
    rw [List.any_eq_true]
    constructor
    · rintro ⟨hscope, hruns, hwindow, haccepts⟩
      push Not at hruns
      obtain ⟨runId, hrunId, hin⟩ := hruns
      obtain ⟨fact, hfact, rfl⟩ := (mem_runs_finish hrow.executionRunIds).mp hrunId
      have hasks : w.asksFor first = true := by simp [asksFor, hscope, haccepts]
      have hfactAlike := halike first hfirst fact hfact hasks
      have hwindow' : w.inWindow (some fact.detectedAt) = true := by
        rw [← hfactAlike.2.2.1, (halike first hfirst earliest hearliest hasks).2.2.1, hwindow]
      refine ⟨fact, hfact, ?_⟩
      rw [counts, ← asksFor_congr hfactAlike.1, hasks, hwindow', decide_eq_true hin]
      rfl
    · rintro ⟨fact, hfact, hcounts⟩
      rw [counts, Bool.and_eq_true, Bool.and_eq_true] at hcounts
      obtain ⟨⟨hasks, hin⟩, hwindow⟩ := hcounts
      have hfirstAlike := halike fact hfact first hfirst hasks
      have hasks' : w.asksFor first = true := (asksFor_congr hfirstAlike.1).symm.trans hasks
      rw [asksFor, Bool.and_eq_true] at hasks'
      refine ⟨of_decide_eq_true hasks'.1, ?_, ?_, hasks'.2⟩
      · intro hnone
        exact hnone _ ((mem_runs_finish hrow.executionRunIds).mpr ⟨fact, hfact, rfl⟩)
          (of_decide_eq_true hin)
      · rw [← (halike fact hfact earliest hearliest hasks).2.2.1, hwindow]
  rw [examineRow, hversion, hreason, hparse, if_congr hpass.symm rfl rfl]
  by_cases hscope : first.dataObjectVersionId.text ∈ w.scopeIds
  · by_cases hruns : ∀ runId ∈ normalizedTexts row.finish.executionRunIds, runId ∉ w.runIds
    · rw [if_neg (not_not.mpr hscope), if_pos hruns, if_neg fun h => h.2.1 hruns]
    · rw [if_neg (not_not.mpr hscope), if_neg hruns, ok_bind]
      by_cases hrest : w.inWindow (some earliest.detectedAt) = true ∧
          w.acceptsReason first.reasonCode.text = true
      · rw [if_pos hrest, if_pos ⟨hscope, hruns, hrest.1, hrest.2⟩]
        rfl
      · rw [if_neg hrest, if_neg fun h => hrest ⟨h.2.2.1, h.2.2.2⟩]
        rfl
  · rw [if_pos hscope, if_neg fun h => hscope h.1]

/-- An occurrence as the store counts it: in no trend where there are no buckets. -/
def shown (w : Selection) (o : Occurrence) : Occurrence :=
  if w.buckets.isSome then o else o.untrended

omit [PyNumerals] [PySha256] in
/-- What a row is counted as: in the place of its first record, in the bucket of its earliest. -/
theorem occurrenceOfRow_finish (hexact : w.ExactBuckets)
    (hrange : ∀ fact ∈ group, Datetime.InRange fact.detectedAt) (hrow : RowOf group row) :
    ∃ o, occurrenceOfRow w row.finish = .ok o ∧ o.count = group.length ∧
      (∀ runId, runId ∈ o.runIds ↔ ∃ fact ∈ group, fact.executionRunId.text = runId) ∧
      ∃ first ∈ group, ∃ earliest ∈ group,
        (w.shown o).place = first.place (w.bucketOf earliest.detectedAt) := by
  obtain ⟨first, hfirst, hplace, -⟩ := hrow.place
  obtain ⟨earliest, hearliest, htime⟩ := hrow.detectedAt
  have hparse : parseIsoDatetime (some row.finish.detectedAt) = .ok (some earliest.detectedAt) := by
    show parseIsoDatetime (some row.detectedAt) = _
    rw [htime]
    exact parseIsoDatetime_formatIsoDatetime (hrange earliest hearliest)
  have hlabels : ∀ bucket, (⟨Text.strip row.finish.ruleId,
      Text.strip row.finish.dataObjectVersionId, Text.strip row.finish.reasonCode,
      Text.strip row.finish.reasonTextSnapshot, bucket⟩ : Place) = first.place bucket := by
    intro bucket
    rw [ExceptionFact.place, ← first.ruleId.strip_text, ← first.dataObjectVersionId.strip_text,
      ← first.reasonCode.strip_text, ← first.reasonText.strip_text]
    exact congrArg (fun place : Place => (⟨Text.strip place.ruleId,
      Text.strip place.dataObjectVersionId, Text.strip place.reasonCode,
      Text.strip place.reasonText, bucket⟩ : Place)) hplace
  have hruns : ∀ runId, runId ∈ normalizedTexts row.finish.executionRunIds ↔
      ∃ fact ∈ group, fact.executionRunId.text = runId :=
    fun _ => mem_runs_finish hrow.executionRunIds
  cases hbuckets : w.buckets with
  | none =>
    refine ⟨⟨first.place (some (Text.strip row.finish.bucketStart)),
      normalizedTexts row.finish.executionRunIds, row.finish.failedRecordCount⟩, ?_,
      hrow.failedRecordCount, hruns, first, hfirst, earliest, hearliest, ?_⟩
    · simp only [occurrenceOfRow, hbuckets, hlabels]
      rfl
    · rw [shown, bucketOf, hbuckets]
      rfl
  | some buckets =>
    obtain ⟨start, -, hstart⟩ := (hexact buckets hbuckets).exists_start earliest.detectedAt
    have hbucket : w.bucketStart Buckets.rowStart (some earliest.detectedAt) = .ok (some start) := by
      simp only [Selection.bucketStart, hbuckets, hstart]
      rfl
    refine ⟨⟨first.place (some start), normalizedTexts row.finish.executionRunIds,
      row.finish.failedRecordCount⟩, ?_, hrow.failedRecordCount, hruns, first, hfirst, earliest,
      hearliest, ?_⟩
    · simp only [occurrenceOfRow, hbuckets, hparse, ok_bind, hbucket, hlabels]
      rfl
    · rw [shown, bucketOf, hbuckets, Option.bind_some, hstart]
      rfl

omit [PyRuntime] [PyNumerals] [PySha256] in
theorem checkRow_finish (hrow : RowOf group row) : checkRow row.finish = .ok () := by
  obtain ⟨first, hfirst, hplace, hbucket⟩ := hrow.place
  have hrule : Text.strip row.finish.ruleId ≠ [] := by
    rw [show row.finish.ruleId = first.ruleId.text from congrArg Place.ruleId hplace,
      first.ruleId.strip_text]
    exact first.ruleId.ne_nil
  have hversion : Text.strip row.finish.dataObjectVersionId ≠ [] := by
    rw [show row.finish.dataObjectVersionId = first.dataObjectVersionId.text from
      congrArg Place.dataObjectVersionId hplace, first.dataObjectVersionId.strip_text]
    exact first.dataObjectVersionId.ne_nil
  have hcode : Text.strip row.finish.reasonCode ≠ [] := by
    rw [show row.finish.reasonCode = first.reasonCode.text from
      congrArg Place.reasonCode hplace, first.reasonCode.strip_text]
    exact first.reasonCode.ne_nil
  have htext : Text.strip row.finish.reasonTextSnapshot ≠ [] := by
    rw [show row.finish.reasonTextSnapshot = first.reasonText.text from
      congrArg Place.reasonText hplace, first.reasonText.strip_text]
    exact first.reasonText.ne_nil
  have hstart : Text.strip row.finish.bucketStart ≠ [] := by
    show Text.strip row.bucketStart ≠ []
    rw [hbucket, strip_formatIsoDatetime]
    exact formatIsoDatetime_ne_nil _
  have hruns : normalizedTexts row.finish.executionRunIds ≠ [] := by
    apply List.ne_nil_of_mem
    exact (mem_runs_finish hrow.executionRunIds).mpr ⟨first, hfirst, rfl⟩
  rw [checkRow, if_neg]
  simp [hrule, hversion, hruns, hstart, hcode, htext]

/-! ### Groups -/

variable {facts : List ExceptionFact}

omit [PyRuntime] in
def members (facts : List ExceptionFact) (entry : Text × ProjectionRow) : List ExceptionFact :=
  Grouping.fiber ExceptionFact.projectionKey facts entry.1

omit [PyRuntime] [PyNumerals] in
theorem rowOf_members {entry : Text × ProjectionRow} (h : entry ∈ factGroups facts) :
    RowOf (members facts entry) entry.2 := rowOf_gathered (Grouping.gathered_of_mem h)

omit [PyNumerals] in
theorem Uncut.alike (h : w.Uncut facts) (entry : Text × ProjectionRow) :
    w.Alike (members facts entry) := by
  intro fact hfact fact' hfact'
  rw [members, Grouping.mem_fiber] at hfact hfact'
  exact h fact hfact.1 fact' hfact'.1 (hfact.2.trans hfact'.2.symm)

omit [PyNumerals] [PySha256] in
theorem Alike.counts_eq (h : w.Alike group) {fact : ExceptionFact} (hfact : fact ∈ group) :
    group.any w.counts = w.counts fact := by
  cases hcounts : w.counts fact with
  | true => exact List.any_eq_true.mpr ⟨fact, hfact, hcounts⟩
  | false =>
    rw [List.any_eq_false]
    intro fact' hfact' hcounts'
    have hasks : w.asksFor fact' = true := by
      rw [counts, Bool.and_eq_true, Bool.and_eq_true] at hcounts'
      exact hcounts'.1.1
    rw [(h fact' hfact' fact hfact hasks).counts_eq, hcounts] at hcounts'
    cases hcounts'

omit [PyNumerals] in
/-- The occurrences of the groups count the same as those of the records. -/
theorem sameCounts_groups (huncut : w.Uncut facts) {occurrence : Text × ProjectionRow → Occurrence}
    (hcount : ∀ entry ∈ factGroups facts, (occurrence entry).count = (members facts entry).length)
    (hruns : ∀ entry ∈ factGroups facts, ∀ runId, runId ∈ (occurrence entry).runIds ↔
      ∃ fact ∈ members facts entry, fact.executionRunId.text = runId)
    (hplace : ∀ entry ∈ factGroups facts, ∃ first ∈ members facts entry,
      ∃ earliest ∈ members facts entry,
        (occurrence entry).place = first.place (w.bucketOf earliest.detectedAt)) :
    SameCounts ((facts.filter w.counts).map w.occurrenceOf)
      (((factGroups facts).filter fun entry => (members facts entry).any w.counts).map
        occurrence) := by
  -- A counted group has the place of each of its records.
  have hsame : ∀ entry ∈ factGroups facts, ∀ fact ∈ members facts entry, w.counts fact = true →
      (occurrence entry).place = (w.occurrenceOf fact).place := by
    intro entry hentry fact hfact hcounts
    obtain ⟨first, hfirst, earliest, hearliest, heq⟩ := hplace entry hentry
    have hasks : w.asksFor fact = true := by
      rw [counts, Bool.and_eq_true, Bool.and_eq_true] at hcounts
      exact hcounts.1.1
    have hfirstAlike := huncut.alike entry fact hfact first hfirst hasks
    have hearliestAlike := huncut.alike entry fact hfact earliest hearliest hasks
    rw [heq, hfirstAlike.place_eq, occurrenceOf, ← hfirstAlike.2.2.2, hearliestAlike.2.2.2]
  have hgroup : ∀ fact ∈ facts, ∃ entry ∈ factGroups facts, fact ∈ members facts entry := by
    intro fact hfact
    obtain ⟨entry, hentry, hkey⟩ : ∃ entry ∈ factGroups facts, entry.1 = fact.projectionKey :=
      Grouping.exists_group hfact
    exact ⟨entry, hentry, Grouping.mem_fiber.mpr ⟨hfact, hkey.symm⟩⟩
  constructor
  · intro p _
    rw [Grouping.total_map, Grouping.total_map, Grouping.total_filter, Grouping.total_filter]
    symm
    apply Grouping.total_groupOn
    · intro entry hentry fact hfact hkey
      have hmember : fact ∈ members facts entry := Grouping.mem_fiber.mpr ⟨hfact, hkey⟩
      rw [(huncut.alike entry).counts_eq hmember]
      apply and_congr_right
      intro hcounts
      rw [hsame entry hentry fact hmember hcounts]
    · intro entry hentry
      rw [hcount entry hentry]
      simp [occurrenceOf, members]
  · intro place
    constructor
    · rintro ⟨o, ho, rfl⟩
      obtain ⟨fact, hfact, rfl⟩ := List.mem_map.mp ho
      rw [List.mem_filter] at hfact
      obtain ⟨entry, hentry, hmember⟩ := hgroup fact hfact.1
      refine ⟨occurrence entry, List.mem_map_of_mem (List.mem_filter.mpr ⟨hentry, ?_⟩), ?_⟩
      · rw [(huncut.alike entry).counts_eq hmember, hfact.2]
      · exact hsame entry hentry fact hmember hfact.2
    · rintro ⟨o, ho, rfl⟩
      obtain ⟨entry, hentry, rfl⟩ := List.mem_map.mp ho
      rw [List.mem_filter, List.any_eq_true] at hentry
      obtain ⟨hentry, fact, hmember, hcounts⟩ := hentry
      have hfact := (Grouping.mem_fiber.mp hmember).1
      exact ⟨_, List.mem_map_of_mem (List.mem_filter.mpr ⟨hfact, hcounts⟩),
        (hsame entry hentry fact hmember hcounts).symm⟩
  · intro runId
    constructor
    · rintro ⟨o, ho, hrun⟩
      obtain ⟨fact, hfact, rfl⟩ := List.mem_map.mp ho
      rw [List.mem_filter] at hfact
      obtain ⟨entry, hentry, hmember⟩ := hgroup fact hfact.1
      refine ⟨occurrence entry, List.mem_map_of_mem (List.mem_filter.mpr ⟨hentry, ?_⟩), ?_⟩
      · rw [(huncut.alike entry).counts_eq hmember, hfact.2]
      · exact (hruns entry hentry runId).mpr ⟨fact, hmember, (List.mem_singleton.mp hrun).symm⟩
    · rintro ⟨o, ho, hrun⟩
      obtain ⟨entry, hentry, rfl⟩ := List.mem_map.mp ho
      rw [List.mem_filter] at hentry
      obtain ⟨fact, hmember, rfl⟩ := (hruns entry hentry.1 runId).mp hrun
      have hcounts := (huncut.alike entry).counts_eq hmember
      rw [hentry.2] at hcounts
      have hfact := (Grouping.mem_fiber.mp hmember).1
      exact ⟨_, List.mem_map_of_mem (List.mem_filter.mpr ⟨hfact, hcounts.symm⟩),
        List.mem_singleton_self _⟩

omit [PyRuntime] [PyNumerals] in
theorem inRange_members (hrange : ∀ fact ∈ facts, Datetime.InRange fact.detectedAt)
    (entry : Text × ProjectionRow) :
    ∀ fact ∈ members facts entry, Datetime.InRange fact.detectedAt :=
  fun fact hfact => hrange fact (Grouping.mem_fiber.mp hfact).1

omit [PyNumerals] in
/-- The rows that are kept are those of the groups with a counted record. -/
theorem exists_collect_rows (huncut : w.Uncut facts)
    (hrange : ∀ fact ∈ facts, Datetime.InRange fact.detectedAt) :
    ∃ kept, Collect.collect (examineRow w) none 0 (projectionRows facts) = .ok kept ∧
      kept.Perm (((factGroups facts).filter fun entry => (members facts entry).any w.counts).map
        fun entry => entry.2.finish) := by
  let found (row : ProjectionRow) : Option ProjectionRow := (examineRow w row).toOption.join
  have hexamined : ∀ entry ∈ factGroups facts, examineRow w entry.2.finish =
      .ok (if (members facts entry).any w.counts then some entry.2.finish else none) :=
    fun entry hentry => examineRow_finish (huncut.alike entry) (inRange_members hrange entry)
      (rowOf_members hentry)
  have hperm : (projectionRows facts).Perm ((factGroups facts).map fun entry => entry.2.finish) :=
    Sorted.sortOn_perm _ _
  refine ⟨(projectionRows facts).filterMap found, ?_, ?_⟩
  · apply Collect.collect_eq_filterMap
    intro row hmem
    obtain ⟨entry, hentry, rfl⟩ := List.mem_map.mp (hperm.mem_iff.mp hmem)
    show _ = Except.ok (examineRow w entry.2.finish).toOption.join
    rw [hexamined entry hentry]
    rfl
  · refine (hperm.filterMap found).trans (List.Perm.of_eq ?_)
    rw [List.filterMap_map, ← List.filterMap_eq_map, ← List.filterMap_eq_filter,
      List.filterMap_filterMap]
    apply List.filterMap_congr
    intro entry hentry
    show (examineRow w entry.2.finish).toOption.join = _
    rw [hexamined entry hentry]
    cases hany : (members facts entry).any w.counts with
    | false => simp [Except.toOption, Option.guard, hany]
    | true => simp [Except.toOption, Option.guard, hany]

omit [PyNumerals] in
/-- The rows are summarised by the occurrences of the records, but for the trends where there are
no buckets. -/
theorem summarizeRows_of_uncut (hexact : w.ExactBuckets) (huncut : w.Uncut facts)
    (hrange : ∀ fact ∈ facts, Datetime.InRange fact.detectedAt) {q : SummaryQuery}
    (hselect : q.select = .ok (some w)) :
    ∃ os, summarizeReasonAnalyticsProjectionRows (projectionRows facts) q = .ok (summaryOf os) ∧
      SameCounts ((facts.filter w.counts).map w.occurrenceOf) (os.map w.shown) := by
  -- What a row is counted as, if it is.
  let occurrence (row : ProjectionRow) : Occurrence :=
    (occurrenceOfRow w row).toOption.getD ⟨⟨[], [], [], [], none⟩, [], 0⟩
  have hoccurrence : ∀ entry ∈ factGroups facts,
      occurrenceOfRow w entry.2.finish = .ok (occurrence entry.2.finish) ∧
        (occurrence entry.2.finish).count = (members facts entry).length ∧
        (∀ runId, runId ∈ (occurrence entry.2.finish).runIds ↔
          ∃ fact ∈ members facts entry, fact.executionRunId.text = runId) ∧
        ∃ first ∈ members facts entry, ∃ earliest ∈ members facts entry,
          (w.shown (occurrence entry.2.finish)).place =
            first.place (w.bucketOf earliest.detectedAt) := by
    intro entry hentry
    obtain ⟨o, ho, hdescribed⟩ :=
      occurrenceOfRow_finish hexact (inRange_members hrange entry) (rowOf_members hentry)
    have heq : occurrence entry.2.finish = o := by
      show (occurrenceOfRow w entry.2.finish).toOption.getD _ = o
      rw [ho]
      rfl
    rw [heq]
    exact ⟨ho, hdescribed⟩
  have hshown : ∀ o : Occurrence, (w.shown o).count = o.count ∧ (w.shown o).runIds = o.runIds := by
    intro o
    rw [shown]
    split
    · exact ⟨rfl, rfl⟩
    · exact ⟨rfl, rfl⟩
  obtain ⟨kept, hkept, hperm⟩ := exists_collect_rows huncut hrange
  have hkeptRow : ∀ row ∈ kept, ∃ entry ∈ factGroups facts, entry.2.finish = row := by
    intro row hmem
    obtain ⟨entry, hentry, hfinish⟩ := List.mem_map.mp (hperm.mem_iff.mp hmem)
    exact ⟨entry, (List.mem_filter.mp hentry).1, hfinish⟩
  refine ⟨kept.map occurrence, ?_, ?_⟩
  · obtain ⟨units, hchecks⟩ : ∃ units, kept.mapM checkRow = .ok units := by
      apply exists_mapM
      intro row hmem
      obtain ⟨entry, hentry, rfl⟩ := hkeptRow row hmem
      exact ⟨(), checkRow_finish (rowOf_members hentry)⟩
    have hplaced : kept.mapM (occurrenceOfRow w) = .ok (kept.map occurrence) := by
      apply mapM_of_forall₂
      rw [List.forall₂_map_right_iff, List.forall₂_same]
      intro row hmem
      obtain ⟨entry, hentry, rfl⟩ := hkeptRow row hmem
      exact (hoccurrence entry hentry).1
    rw [summarizeReasonAnalyticsProjectionRows, hselect, ok_bind]
    dsimp only
    rw [hkept, ok_bind, hchecks, ok_bind, hplaced, ok_bind]
    rfl
  · refine SameCounts.trans ?_ (SameCounts.of_perm ((hperm.map occurrence).map w.shown)).symm
    rw [List.map_map, List.map_map]
    apply sameCounts_groups huncut
    · intro entry hentry
      exact (hshown _).1.trans (hoccurrence entry hentry).2.1
    · intro entry hentry runId
      rw [← (hoccurrence entry hentry).2.2.1 runId]
      exact iff_of_eq (congrArg (runId ∈ ·) (hshown _).2)
    · intro entry hentry
      exact (hoccurrence entry hentry).2.2.2

end Selection

/-! ### Agreement -/

omit [PyNumerals] [PySha256] in
def SummaryQuery.Bucketed (q : SummaryQuery) : Prop :=
  match q.select with
  | .ok (some w) => w.buckets.isSome = true
  | _ => False

instance (q : SummaryQuery) : Decidable q.Bucketed := by
  unfold SummaryQuery.Bucketed
  split
  · infer_instance
  · infer_instance

def SummaryQuery.KeepsRows (q : SummaryQuery) (records : List ExceptionRecordCreateEntity) : Prop :=
  match q.select, records.mapM exceptionFact with
  | .ok (some w), .ok facts => w.Uncut facts ∧ w.ExactBuckets
  | _, _ => True

instance (q : SummaryQuery) (records : List ExceptionRecordCreateEntity) :
    Decidable (q.KeepsRows records) := by
  unfold SummaryQuery.KeepsRows
  split
  · infer_instance
  · infer_instance

/-- Records that are stored one by one are the facts of the projection. -/
theorem stores_of_persistViolations {now : ℕ} {records : List ExceptionRecordCreateEntity}
    {store : ViolationStore} {facts : List ExceptionFact}
    (hstore : persistViolations now [] records = .ok store)
    (hdistinct : store.length = records.length) (hfacts : records.mapM exceptionFact = .ok facts) :
    List.Forall₂ Stores facts store := by
  rw [persistViolations] at hstore
  cases hviolations : records.mapM toViolationCreateEntity with
  | error e =>
    rw [hviolations] at hstore
    cases hstore
  | ok violations =>
    rw [hviolations] at hstore
    have hpairs := mapM_ok hviolations
    have hall : saveViolations now [] violations = store := Except.ok.inj hstore
    have hlength : (saveViolations now [] violations).length = violations.length := by
      rw [hall, hdistinct, hpairs.length_eq]
    rw [saveViolations] at hall hlength
    rw [← hall, Assoc.assignAll_of_length _ _ hlength, List.forall₂_map_right_iff]
    clear hall hlength hstore hviolations hdistinct
    induction hpairs generalizing facts with
    | nil =>
      cases hfacts
      exact .nil
    | @cons record violation records violations hviolation _ ih =>
      rw [List.mapM_cons] at hfacts
      obtain ⟨fact, hfact, hfacts⟩ := ok_of_bind hfacts
      obtain ⟨rest, hrest, hfacts⟩ := ok_of_bind hfacts
      rw [← Except.ok.inj hfacts]
      exact .cons (stores_of_normalizes now (exceptionFact_ok hfact)
        (toViolationCreateEntity_ok hviolation)) (ih hrest)

end Facts

/-! ### Two runs in one row -/

section Example

/-- A Python runtime without rounding. -/
local instance sampleRuntimeAgreement : PyRuntime := .ascii .finite (fun _ => [])

local instance sampleNumeralsAgreement : PyNumerals := ⟨fun _ => none, fun _ => none, id⟩

local instance sampleDatetimeAgreement : PyIsoDatetime := .epoch

/-- The digests of the texts of the sample. -/
local instance sampleSha256 : PySha256 where
  hexdigest t := (Assoc.find? [
    ("primary_key:1".toList,
      "b23d9d100f117263e38289f7d304b6de122c181825fc14df8b7612db92a42f37".toList),
    ("primary_key:2".toList,
      "279368e0ad2cdbe854b0579f461acc95d53d006a6e1b8acd6c0585d7e7c6cb4e".toList),
    ("\x7b\"dataObjectVersionId\":\"v\",\"detectedAt\":\"1970-01-01T00:00:00+00:00\",".toList ++
      "\"executionRunId\":\"a\",\"reasonCode\":\"C\",\"reasonText\":\"T\",".toList ++
      "\"recordIdentifierType\":\"primary_key\",\"recordIdentifierValue\":\"1\",".toList ++
      "\"ruleId\":\"r\"\x7d".toList,
      "f24b3f18d0815aa456930fc6acd3150fefe950c5886e51b5d9ce3697d9d494db".toList),
    ("\x7b\"dataObjectVersionId\":\"v\",\"detectedAt\":\"1970-01-01T00:00:00+00:00\",".toList ++
      "\"executionRunId\":\"b\",\"reasonCode\":\"C\",\"reasonText\":\"T\",".toList ++
      "\"recordIdentifierType\":\"primary_key\",\"recordIdentifierValue\":\"2\",".toList ++
      "\"ruleId\":\"r\"\x7d".toList,
      "e3e341a6d2f404ad9c928e10363a04bebd4c56bfc5f69b3be3d4db2fd99bd18f".toList),
    ("1970-01-01T00:00:00+00:00|gx||||s|v|r|x|C|T".toList,
      "283809bc8e41d9f47343003ffb81f42844189ba138c3bcfd3e6b6e2eaf9b6331".toList)] t).getD t

/-- A record of a run. -/
def sampleRecord (runId value : String) : ExceptionRecordCreateEntity where
  dataObjectVersionId := "v"
  executionRunId := runId.toList
  ruleId := "r"
  recordIdentifierType := "primary_key"
  recordIdentifierValue := value.toList
  reasonCode := "C"
  reasonText := "T"
  detectedAt := some "1970-01-01T00:00:00+00:00"
  opsMetadata := [("validation_artifact_id", .text "s"),
    ("validation_artifact_version", .int 1), ("rule_version_id", .text "x"),
    ("engine_type", .text "gx")]

/-- The records of two runs that find the same reason in the same hour. -/
def sampleRecords : List ExceptionRecordCreateEntity := [sampleRecord "a" "1", sampleRecord "b" "2"]

/-- A query for some runs, with one bucket of an hour. -/
def sampleQuery (runIds : List Text) : SummaryQuery where
  dataObjectVersionIds := ["v"]
  executionRunIds := runIds
  bucketOrigin := some "1970-01-01T00:00:00+00:00"
  bucketSizeSeconds := some 3600
  bucketCount := some 1

end Example

end Exceptions

end DqMadeEasy
