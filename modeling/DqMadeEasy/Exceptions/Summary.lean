import Mathlib.Data.Finset.Card
import DqMadeEasy.Exceptions.Violations
import DqMadeEasy.Logic.Collect

/-!
# Summaries of violations

A summary counts occurrences: each has a place, which is what it is counted under, the runs that it
was found in, and a number of failed records. The store of violations is summarised with one
occurrence for a violation.
-/

namespace DqMadeEasy

namespace Exceptions

open Runs Worker

/-! ### Queries -/

/-- The arguments of `summarize_violations` and of `summarize_reason_analytics_projection_rows`. -/
structure SummaryQuery where
  dataObjectVersionIds : List Text
  executionRunIds : List Text
  reasonCodes : Option (List Text) := none
  detectedAfter : Option Text := none
  detectedBefore : Option Text := none
  bucketOrigin : Option Text := none
  bucketSizeSeconds : Option ℤ := none
  bucketCount : Option ℤ := none

/-- What a query selects, once its texts are read. -/
structure Selection where
  scopeIds : List Text
  runIds : List Text
  reasonCodes : List Text
  detectedAfter : Option ℤ
  detectedBefore : Option ℤ
  buckets : Option Buckets

/-- `{str(value).strip() for value in values if str(value).strip()}`. -/
def normalizedTexts (values : List Text) : List Text :=
  (values.map Text.strip).filter fun value => value ≠ []

theorem mem_normalizedTexts {values : List Text} {t : Text} :
    t ∈ normalizedTexts values ↔ t ≠ [] ∧ ∃ value ∈ values, Text.strip value = t := by
  simp [normalizedTexts, and_comm]

/-- The buckets of a query, if it asks for any. -/
def bucketsOf (origin size count : Option ℤ) : Option Buckets :=
  match origin, size, count with
  | some origin, some size, some count =>
    if h : 0 < size ∧ 0 < count then some ⟨origin, size, count, h.1, h.2⟩ else none
  | _, _, _ => none

/-- The selection of a query, or `none` for a query without scopes or without runs. -/
def SummaryQuery.select [PyIsoDatetime] (q : SummaryQuery) : Except PyError (Option Selection) :=
  let scopeIds := normalizedTexts q.dataObjectVersionIds
  let runIds := normalizedTexts q.executionRunIds
  if scopeIds = [] ∨ runIds = [] then .ok none
  else do
    let detectedAfter ← parseIsoDatetime q.detectedAfter
    let detectedBefore ← parseIsoDatetime q.detectedBefore
    let bucketOrigin ← parseIsoDatetime q.bucketOrigin
    return some {
      scopeIds := scopeIds
      runIds := runIds
      reasonCodes := normalizedTexts (q.reasonCodes.getD [])
      detectedAfter := detectedAfter
      detectedBefore := detectedBefore
      buckets := bucketsOf bucketOrigin q.bucketSizeSeconds q.bucketCount }

namespace Selection

/-- Whether a time passes the window. -/
def inWindow (w : Selection) (detectedAt : Option ℤ) : Bool :=
  (w.detectedAfter.all fun after => detectedAt.any fun value => decide (after ≤ value)) &&
    w.detectedBefore.all fun before => detectedAt.any fun value => decide (value ≤ before)

/-- Whether a reason passes the filter. -/
def acceptsReason (w : Selection) (reasonCode : Text) : Bool :=
  w.reasonCodes = [] || decide (reasonCode ∈ w.reasonCodes)

end Selection

/-! ### Counting -/

/-- What an occurrence is counted under. Without a bucket it is in no trend. -/
structure Place where
  ruleId : Text
  dataObjectVersionId : Text
  reasonCode : Text
  reasonText : Text
  bucket : Option Text
  deriving DecidableEq

/-- A number of failed records in one place. -/
structure Occurrence where
  place : Place
  runIds : List Text
  count : ℕ

/-- `GxExecutionViolationTrendTotalEntity`. -/
structure TrendTotal where
  bucketStart : Text
  total : ℕ
  deriving DecidableEq

/-- `GxExecutionViolationRuleTotalEntity`. -/
structure RuleTotal where
  ruleId : Text
  total : ℕ
  deriving DecidableEq

/-- `GxExecutionViolationDataObjectTotalEntity`. -/
structure DataObjectTotal where
  dataObjectVersionId : Text
  total : ℕ
  deriving DecidableEq

/-- `GxExecutionViolationReasonTotalEntity`. -/
structure ReasonTotal where
  reasonCode : Text
  reasonText : Text
  total : ℕ
  deriving DecidableEq

/-- `GxExecutionViolationReasonTrendTotalEntity`. -/
structure ReasonTrendTotal where
  bucketStart : Text
  reasonCode : Text
  reasonText : Text
  total : ℕ
  deriving DecidableEq

/-- `GxExecutionViolationSummaryEntity`. -/
structure ViolationSummary where
  totalFailedRecords : ℕ := 0
  runsWithFailures : ℕ := 0
  trendTotals : List TrendTotal := []
  ruleTotals : List RuleTotal := []
  dataObjectTotals : List DataObjectTotal := []
  reasonTotals : List ReasonTotal := []
  reasonTrendTotals : List ReasonTrendTotal := []
  deriving DecidableEq

/-- The failed records by a label. -/
def countBy {κ : Type} [DecidableEq κ] (label : Place → Option κ) (occurrences : List Occurrence) :
    List (κ × ℕ) :=
  Grouping.tally Prod.fst Prod.snd
    (occurrences.filterMap fun o => (label o.place).map fun k => (k, o.count))

namespace Place

def ruleLabel (place : Place) : Option Text :=
  if place.ruleId = [] then none else some place.ruleId

def dataObjectLabel (place : Place) : Option Text :=
  if place.dataObjectVersionId = [] then none else some place.dataObjectVersionId

def reasonLabel (place : Place) : Option (Text × Text) := some (place.reasonCode, place.reasonText)

def reasonTrendLabel (place : Place) : Option (Text × Text × Text) :=
  place.bucket.map fun start => (start, place.reasonCode, place.reasonText)

end Place

/-- The key that sorts the largest totals first, and equal ones by an order of their labels. -/
def totalKey {κ σ : Type} (order : κ → σ) (entry : κ × ℕ) : ℤ ×ₗ σ :=
  toLex (-(entry.2 : ℤ), order entry.1)

def reasonTrendKey (entry : (Text × Text × Text) × ℕ) : Text ×ₗ ℤ ×ₗ Text ×ₗ Text :=
  toLex (entry.1.1, totalKey (fun label => toLex label.2) entry)

/-- The summary of some occurrences. -/
def summaryOf (occurrences : List Occurrence) : ViolationSummary :=
  let reasonTotals := countBy Place.reasonLabel occurrences
  { totalFailedRecords := (reasonTotals.map Prod.snd).sum
    runsWithFailures := (occurrences.flatMap Occurrence.runIds).toFinset.card
    trendTotals :=
      (Sorted.sortOn toLex (countBy Place.bucket occurrences)).map
        fun entry => ⟨entry.1, entry.2⟩
    ruleTotals :=
      ((Sorted.sortOn (totalKey id) (countBy Place.ruleLabel occurrences)).take 5).map
        fun entry => ⟨entry.1, entry.2⟩
    dataObjectTotals :=
      ((Sorted.sortOn (totalKey id) (countBy Place.dataObjectLabel occurrences)).take 5).map
        fun entry => ⟨entry.1, entry.2⟩
    reasonTotals :=
      ((Sorted.sortOn (totalKey toLex) reasonTotals).take 5).map
        fun entry => ⟨entry.1.1, entry.1.2, entry.2⟩
    reasonTrendTotals :=
      (Sorted.sortOn reasonTrendKey (countBy Place.reasonTrendLabel occurrences)).map
        fun entry => ⟨entry.1.1, entry.1.2.1, entry.1.2.2, entry.2⟩ }

def ViolationSummary.untrended (summary : ViolationSummary) : ViolationSummary :=
  { summary with trendTotals := [], reasonTrendTotals := [] }

def Occurrence.untrended (o : Occurrence) : Occurrence :=
  { o with place := { o.place with bucket := none } }

/-! ### Occurrences that count the same -/

/-- The occurrences of a label have the same weight, and the same places and runs occur. -/
structure SameCounts (os os' : List Occurrence) : Prop where
  totals : ∀ (p : Place → Prop) [DecidablePred p],
    Grouping.total (fun o : Occurrence => p o.place) Occurrence.count os =
      Grouping.total (fun o : Occurrence => p o.place) Occurrence.count os'
  places : ∀ place, (∃ o ∈ os, o.place = place) ↔ ∃ o ∈ os', o.place = place
  runs : ∀ runId, (∃ o ∈ os, runId ∈ o.runIds) ↔ ∃ o ∈ os', runId ∈ o.runIds

section Congruence

variable {os os' : List Occurrence}

theorem SameCounts.of_perm (h : os.Perm os') : SameCounts os os' where
  totals _ _ := Grouping.total_perm h
  places _ := exists_congr fun _ => and_congr_left' h.mem_iff
  runs _ := exists_congr fun _ => and_congr_left' h.mem_iff

theorem SameCounts.symm (h : SameCounts os os') : SameCounts os' os where
  totals p _ := (h.totals p).symm
  places place := (h.places place).symm
  runs runId := (h.runs runId).symm

theorem SameCounts.trans {os'' : List Occurrence} (h : SameCounts os os')
    (h' : SameCounts os' os'') : SameCounts os os'' where
  totals p _ := (h.totals p).trans (h'.totals p)
  places place := (h.places place).trans (h'.places place)
  runs runId := (h.runs runId).trans (h'.runs runId)

variable {κ : Type} [DecidableEq κ]

theorem total_label {label : Place → Option κ} {k : κ} {os : List Occurrence} :
    Grouping.total (fun a : κ × ℕ => a.1 = k) Prod.snd
        (os.filterMap fun o => (label o.place).map fun k => (k, o.count)) =
      Grouping.total (fun o : Occurrence => label o.place = some k) Occurrence.count os := by
  apply Grouping.total_filterMap
  · intro o a ha
    obtain ⟨k', hk', rfl⟩ := Option.map_eq_some_iff.mp ha
    rw [hk']
    exact ⟨⟨congrArg some, Option.some.inj⟩, rfl⟩
  · intro o hnone
    rw [Option.map_eq_none_iff] at hnone
    rw [hnone]
    exact nofun

omit [DecidableEq κ] in
theorem exists_label {label : Place → Option κ} {k : κ} {os : List Occurrence} :
    (∃ a ∈ os.filterMap fun o => (label o.place).map fun k => (k, o.count), a.1 = k) ↔
      ∃ place, label place = some k ∧ ∃ o ∈ os, o.place = place := by
  constructor
  · rintro ⟨a, ha, rfl⟩
    obtain ⟨o, ho, hlabel⟩ := List.mem_filterMap.mp ha
    obtain ⟨k, hk, rfl⟩ := Option.map_eq_some_iff.mp hlabel
    exact ⟨o.place, hk, o, ho, rfl⟩
  · rintro ⟨place, hk, o, ho, rfl⟩
    exact ⟨(k, o.count), List.mem_filterMap.mpr ⟨o, ho, by rw [hk]; rfl⟩, rfl⟩

theorem countBy_perm (h : SameCounts os os') (label : Place → Option κ) :
    (countBy label os).Perm (countBy label os') := by
  apply Grouping.tally_perm
  · intro k
    rw [exists_label, exists_label]
    exact exists_congr fun place => and_congr_right' (h.places place)
  · intro k
    rw [total_label, total_label, h.totals fun place => label place = some k]

theorem sortOn_countBy {σ : Type} [LinearOrder σ] (h : SameCounts os os')
    (label : Place → Option κ) (key : κ × ℕ → σ)
    (hkey : ∀ a b : κ × ℕ, key a = key b → a.1 = b.1) :
    Sorted.sortOn key (countBy label os) = Sorted.sortOn key (countBy label os') := by
  apply Sorted.sortOn_eq_of_perm (countBy_perm h label)
  have hnodup : ((countBy label os).map Prod.fst).Nodup := Grouping.nodup_keys_tally
  rw [List.nodup_iff_pairwise_ne, List.pairwise_map] at hnodup ⊢
  exact hnodup.imp fun hne heq => hne (hkey _ _ heq)

omit [DecidableEq κ] in
theorem order_of_totalKey {σ : Type} {order : κ → σ} {a b : κ × ℕ}
    (h : totalKey order a = totalKey order b) : order a.1 = order b.1 :=
  congrArg (fun e : ℤ ×ₗ σ => (ofLex e).2) h

theorem label_of_reasonTrendKey {a b : (Text × Text × Text) × ℕ}
    (h : reasonTrendKey a = reasonTrendKey b) : a.1 = b.1 := by
  have hbucket : a.1.1 = b.1.1 := congrArg (fun e : Text ×ₗ ℤ ×ₗ Text ×ₗ Text => (ofLex e).1) h
  have htotal : totalKey (fun label => toLex label.2) a = totalKey (fun label => toLex label.2) b :=
    congrArg (fun e : Text ×ₗ ℤ ×ₗ Text ×ₗ Text => (ofLex e).2) h
  exact Prod.ext hbucket (toLex_inj.mp (order_of_totalKey htotal))

theorem summaryOf_congr (h : SameCounts os os') : summaryOf os = summaryOf os' := by
  have hruns : (os.flatMap Occurrence.runIds).toFinset =
      (os'.flatMap Occurrence.runIds).toFinset := by
    ext runId
    simpa using h.runs runId
  have hreasons := ((countBy_perm h Place.reasonLabel).map Prod.snd).sum_eq
  have htrend := sortOn_countBy h Place.bucket toLex
    fun a b hab => congrArg Prod.fst (toLex_inj.mp hab)
  have hrule := sortOn_countBy h Place.ruleLabel (totalKey id)
    fun a b hab => order_of_totalKey hab
  have hobject := sortOn_countBy h Place.dataObjectLabel (totalKey id)
    fun a b hab => order_of_totalKey hab
  have hreason := sortOn_countBy h Place.reasonLabel (totalKey toLex)
    fun a b hab => toLex_inj.mp (order_of_totalKey hab)
  have hreasonTrend := sortOn_countBy h Place.reasonTrendLabel reasonTrendKey
    fun a b hab => label_of_reasonTrendKey hab
  rw [summaryOf, summaryOf, hruns, hreasons, htrend, hrule, hobject, hreason, hreasonTrend]

/-- Without trends, occurrences are counted without their buckets. -/
theorem summaryOf_untrended (os : List Occurrence) :
    summaryOf (os.map Occurrence.untrended) = (summaryOf os).untrended := by
  have hlabel : ∀ {κ : Type} [DecidableEq κ] (label : Place → Option κ),
      (∀ place : Place, label { place with bucket := none } = label place) →
        countBy label (os.map Occurrence.untrended) = countBy label os := by
    intro κ _ label h
    rw [countBy, List.filterMap_map, countBy]
    congr 1
    apply List.filterMap_congr
    intro o _
    exact congrArg (Option.map fun k => (k, o.count)) (h o.place)
  have hnone : ∀ {κ : Type} [DecidableEq κ] (label : Place → Option κ),
      (∀ place : Place, label { place with bucket := none } = none) →
        countBy label (os.map Occurrence.untrended) = [] := by
    intro κ _ label h
    rw [countBy, List.filterMap_map, List.filterMap_eq_nil_iff.mpr]
    · rfl
    · intro o _
      exact congrArg (Option.map fun k => (k, o.count)) (h o.place)
  have hruns : (os.map Occurrence.untrended).flatMap Occurrence.runIds =
      os.flatMap Occurrence.runIds := List.flatMap_map ..
  rw [summaryOf, hruns, hlabel Place.reasonLabel fun _ => rfl,
    hlabel Place.ruleLabel fun _ => rfl, hlabel Place.dataObjectLabel fun _ => rfl,
    hnone Place.bucket fun _ => rfl, hnone Place.reasonTrendLabel fun _ => rfl]
  rfl

end Congruence

/-! ### The store of violations -/

section Store

variable [PyRuntime] [PyNumerals] [PyIsoDatetime]

/-- The start of the bucket of a time, if there are buckets. -/
def Selection.bucketStart (w : Selection) (start : Buckets → ℤ → Except PyError Text)
    (detectedAt : Option ℤ) : Except PyError (Option Text) :=
  match w.buckets, detectedAt with
  | some buckets, some value => (buckets.startOf (start buckets) value).map some
  | _, _ => .ok none

omit [PyRuntime] [PyNumerals] in
/-- One round of the loop of `summarize_violations` that filters. -/
def examineViolation (w : Selection) (entry : (Text × Text) × ViolationRecord) :
    Except PyError (Option ViolationRecord) :=
  if entry.1.1 ∉ w.scopeIds then .ok none
  else if Text.strip entry.2.executionRunId ∉ w.runIds then .ok none
  else do
    let detectedAt ← parseIsoDatetime (some entry.2.detectedAt)
    return if w.inWindow detectedAt then some entry.2 else none

/-- One round of the loop of `summarize_violations` that counts. -/
def occurrenceOfViolation (w : Selection) (record : ViolationRecord) :
    Except PyError (Option Occurrence) :=
  let reasonCode := keptText record.opsMetadata "reason_code"
  let reasonText := keptText record.opsMetadata "reason_text"
  if reasonCode = [] ∨ reasonText = [] then
    .error (.builtin "RuntimeError"
      "GX exception reason analytics require canonical reason_code and reason_text metadata")
  else if w.acceptsReason reasonCode = false then .ok none
  else do
    let detectedAt ← parseIsoDatetime (some record.detectedAt)
    let bucket ← w.bucketStart Buckets.violationStart detectedAt
    let runId := Text.strip record.executionRunId
    return some {
      place := ⟨Text.strip record.ruleId, Text.strip record.dataObjectVersionId, reasonCode,
        reasonText, bucket⟩
      runIds := if runId = [] then [] else [runId]
      count := 1 }

/-- `summarize_violations` of the repository in memory. -/
def summarizeViolations (store : ViolationStore) (q : SummaryQuery) :
    Except PyError ViolationSummary := do
  match ← q.select with
  | none => return {}
  | some w =>
    let filtered ← Collect.collect (examineViolation w) none 0 store
    let occurrences ← Collect.collect (occurrenceOfViolation w) none 0 filtered
    return summaryOf occurrences

end Store

end Exceptions

end DqMadeEasy
