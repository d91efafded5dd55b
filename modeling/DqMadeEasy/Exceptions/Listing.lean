import DqMadeEasy.Exceptions.Violations
import DqMadeEasy.Logic.Collect
import DqMadeEasy.Logic.Splitting

/-!
# Listing violations

The violations of a data object version are filtered, sorted by their times and listed a page at a
time. Readers that share the work list one stripe each, where the stripe of a violation comes from a
digest of its record identifier. All listings of one query fail alike, or they share one result.
-/

namespace DqMadeEasy

namespace Exceptions

open Runs Worker

/-! ### Queries -/

/-- The filters of `list_violations`. -/
structure ListQuery where
  dataObjectVersionId : Text
  executionRunId : Option Text := none
  ruleId : Option Text := none
  reasonCodes : Option (List Text) := none
  failureClass : Option Text := none
  recordIdentifierType : Option Text := none
  recordIdentifierValueContains : Option Text := none
  search : Option Text := none
  detectedAfter : Option Text := none
  detectedBefore : Option Text := none

/-- The stripe that is asked for: `hash_stripe` and `hash_stripe_count`. -/
structure StripeQuery where
  hashStripe : Option ℤ := none
  hashStripeCount : Option ℤ := none

/-- The filters of a query, normalised. -/
structure ListFilters where
  reasonCodes : List Text
  failureClass : Option Text
  recordIdentifierType : Option Text
  recordIdentifierValueContains : Option Text
  search : Option Text
  detectedAfter : Option ℤ
  detectedBefore : Option ℤ

/-- A digit of a hexadecimal number. A digest has no other characters. -/
def hexDigit (c : Char) : ℕ := if c.isDigit then c.toNat - 48 else c.toLower.toNat - 87

/-- `int(t, 16)` of a digest. -/
def hexNumber (t : Text) : ℕ := t.foldl (fun n c => 16 * n + hexDigit c) 0

/-- `rows[start:stop]`. A negative index counts from the end. -/
def pySlice {α : Type} (rows : List α) (start stop : ℤ) : List α :=
  let position (i : ℤ) : ℕ := (if i < 0 then i + rows.length else i).toNat
  (rows.take (position stop)).drop (position start)

theorem pySlice_eq_page {α : Type} (rows : List α) (offset limit : ℕ) :
    pySlice rows offset (offset + limit) = Splitting.page rows offset limit := by
  have hstop : ¬((offset : ℤ) + limit < 0) := by omega
  have hstart : ¬((offset : ℤ) < 0) := by omega
  simp only [pySlice, hstop, hstart, if_false, Splitting.page, List.drop_take]
  congr 1
  omega

section Listing

variable [PyRuntime] [PyNumerals] [PyIsoDatetime] [PySha256]

omit [PyNumerals] [PySha256] in
/-- What `list_violations` reads of its arguments. -/
def ListQuery.filters (q : ListQuery) : Except PyError ListFilters := do
  let lowered (t : Option Text) : Option Text := (nonBlank (t.getD [])).map PyRuntime.lower
  let detectedAfter ← parseIsoDatetime q.detectedAfter
  let detectedBefore ← parseIsoDatetime q.detectedBefore
  return {
    reasonCodes := ((q.reasonCodes.getD []).map Text.strip).filter fun value => value ≠ []
    failureClass := nonBlank (q.failureClass.getD [])
    recordIdentifierType := nonBlank (q.recordIdentifierType.getD [])
    recordIdentifierValueContains := lowered q.recordIdentifierValueContains
    search := lowered q.search
    detectedAfter := detectedAfter
    detectedBefore := detectedBefore }

/-! ### Rows -/

def ListQuery.rows (q : ListQuery) (store : ViolationStore) : List ViolationRecord :=
  (store.filter fun entry => decide (entry.1.1 = q.dataObjectVersionId) &&
    q.executionRunId.all (fun id => decide (entry.2.executionRunId = id)) &&
    q.ruleId.all fun id => decide (entry.2.ruleId = id)).map Prod.snd

/-- `str(value or "")`. -/
def orEmptyText (value : Json) : Text := if value.truthy then value.str else []

/-- `haystack`. -/
def listHaystack (record : ViolationRecord) : Text :=
  PyRuntime.lower (Text.join [' '] [record.violationReason,
    keptText record.opsMetadata "reason_code", orEmptyText (record.opsMetadata.get "reason_text"),
    keptText record.opsMetadata "record_identifier_value"])

/-- Whether a violation passes the filters, where its time was read. -/
def ListFilters.pass (filters : ListFilters) (record : ViolationRecord)
    (detectedAt : Option ℤ) : Bool :=
  let reasonCode := keptText record.opsMetadata "reason_code"
  let identifierValue := keptText record.opsMetadata "record_identifier_value"
  (filters.reasonCodes = [] || decide (reasonCode ∈ filters.reasonCodes)) &&
  (filters.failureClass.all fun value =>
    decide (nonBlank (keptText record.opsMetadata "failure_class") = some value)) &&
  (filters.recordIdentifierType.all fun value =>
    decide (nonBlank (keptText record.opsMetadata "record_identifier_type") = some value)) &&
  (filters.recordIdentifierValueContains.all fun part =>
    decide (part <:+: PyRuntime.lower identifierValue)) &&
  (filters.search.all fun part => decide (part <:+: listHaystack record)) &&
  (filters.detectedAfter.all fun after => detectedAt.any fun value => decide (after ≤ value)) &&
  filters.detectedBefore.all fun before => detectedAt.any fun value => decide (value ≤ before)

def stripeText (record : ViolationRecord) : Text :=
  let identifierValue := keptText record.opsMetadata "record_identifier_value"
  if identifierValue = [] then record.id else identifierValue

def hashStripe (value : Text) (stripeCount : ℤ) : ℕ :=
  hexNumber ((PySha256.hexdigest value).take 16) % (max stripeCount 1).toNat

def StripeQuery.pass (stripe : StripeQuery) (record : ViolationRecord) : Bool :=
  stripe.hashStripe.all fun k =>
    decide ((Exceptions.hashStripe (stripeText record)
      (max (stripe.hashStripeCount.getD 0) 1) : ℤ) = k)

/-- One turn of the loop: the time is read before any filter. -/
def listViolation (filters : ListFilters) (stripe : StripeQuery) (record : ViolationRecord) :
    Except PyError (Option ViolationRecord) := do
  let detectedAt ← parseIsoDatetime (some record.detectedAt)
  return if filters.pass record detectedAt && stripe.pass record then some record else none

/-- `GxExecutionViolationListEntity`. -/
structure ViolationList where
  data : List ViolationRecord
  total : ℕ

def listViolations (store : ViolationStore) (q : ListQuery) (stripe : StripeQuery)
    (limit offset : ℤ) : Except PyError ViolationList := do
  let filters ← q.filters
  let found ← Collect.collect (listViolation filters stripe) none 0 (q.rows store)
  let rows := Sorted.sortOn ViolationRecord.detectedAt found
  return { data := pySlice rows offset (offset + limit), total := rows.length }

/-! ### One filter for all listings -/

/-- A turn of the loop keeps a violation or none once its time is read. -/
theorem listViolation_eq (filters : ListFilters) (stripe : StripeQuery) :
    listViolation filters stripe = fun record =>
      (parseIsoDatetime (some record.detectedAt)).map fun detectedAt =>
        if filters.pass record detectedAt && stripe.pass record then some record else none := by
  funext record
  rw [listViolation]
  cases parseIsoDatetime (some record.detectedAt) <;> rfl

def ListFilters.passes (filters : ListFilters) (record : ViolationRecord) : Bool :=
  match parseIsoDatetime (some record.detectedAt) with
  | .ok detectedAt => filters.pass record detectedAt
  | .error _ => false

def listed (store : ViolationStore) (q : ListQuery) (filters : ListFilters) (stripe : StripeQuery) :
    List ViolationRecord :=
  Sorted.sortOn ViolationRecord.detectedAt
    ((q.rows store).filter fun record => filters.passes record && stripe.pass record)

/-- All listings of a query fail alike, where its texts or the time of one of its violations cannot
be read, or all show what its filters pass. -/
theorem listViolations_cases (store : ViolationStore) (q : ListQuery) :
    (∃ e, ∀ stripe limit offset, listViolations store q stripe limit offset = .error e) ∨
    ∃ filters, ∀ stripe limit offset, listViolations store q stripe limit offset =
      .ok ⟨pySlice (listed store q filters stripe) offset (offset + limit),
        (listed store q filters stripe).length⟩ := by
  simp only [listViolations]
  cases q.filters with
  | error e => exact .inl ⟨e, fun _ _ _ => rfl⟩
  | ok filters =>
    simp only [ok_bind, listViolation_eq]
    obtain ⟨e, herror⟩ | hread := Collect.collect_read
      (fun (stripe : StripeQuery) record detectedAt =>
        if filters.pass record detectedAt && stripe.pass record then some record else none)
      (q.rows store)
    · exact .inl ⟨e, fun stripe _ _ => by rw [herror stripe]; rfl⟩
    · refine .inr ⟨filters, fun stripe limit offset => ?_⟩
      rw [Collect.collect_eq_filterMap (f := fun record =>
        if filters.passes record && stripe.pass record then some record else none)]
      · rw [listed, ← List.filterMap_eq_filter]
        rfl
      · intro record hrecord
        obtain ⟨detectedAt, hdetectedAt⟩ := hread record hrecord
        rw [ListFilters.passes, hdetectedAt]
        rfl

/-! ### The laws -/

/-- A list of violations is all that a listing can show: it is shown whole where the limit is large
enough, and the pages of any size, one after the other, are that list. -/
structure Lists (store : ViolationStore) (q : ListQuery) (stripe : StripeQuery)
    (rows : List ViolationRecord) : Prop where
  whole : ∀ limit : ℕ, rows.length ≤ limit →
    listViolations store q stripe limit 0 = .ok ⟨rows, rows.length⟩
  paged : ∀ size count : ℕ, rows.length ≤ count * size →
    ∃ pages, (List.range count).mapM (fun i => listViolations store q stripe size (i * size : ℕ)) =
        .ok pages ∧
      pages.flatMap ViolationList.data = rows ∧ ∀ page ∈ pages, page.total = rows.length

/-- The stripe `k` of so many stripes. -/
def stripeOf (count : ℤ) (k : ℕ) : StripeQuery := ⟨some k, some count⟩

variable {store : ViolationStore} {q : ListQuery}

/-- Listings that show slices of one list can show all of it. -/
theorem lists_of_eq {stripe : StripeQuery} {rows : List ViolationRecord}
    (h : ∀ limit offset, listViolations store q stripe limit offset =
      .ok ⟨pySlice rows offset (offset + limit), rows.length⟩) : Lists store q stripe rows := by
  constructor
  · intro limit hlimit
    have hpage := pySlice_eq_page rows 0 limit
    rw [Splitting.page_zero hlimit] at hpage
    rw [h]
    exact congrArg (fun data => Except.ok (ViolationList.mk data rows.length)) hpage
  · intro size count hcount
    refine ⟨(List.range count).map fun i => ⟨Splitting.page rows (i * size) size, rows.length⟩,
      mapM_of_forall₂ ?_, ?_, ?_⟩
    · rw [List.forall₂_map_right_iff, List.forall₂_same]
      intro i _
      rw [h, pySlice_eq_page]
    · rw [List.flatMap_map]
      exact Splitting.flatMap_page_eq hcount
    · intro page hpage
      obtain ⟨i, -, rfl⟩ := List.mem_map.mp hpage
      rfl

/-- A stripe is in the order of the listing what the key of a violation selects. -/
theorem listed_stripe_perm (filters : ListFilters) (count : ℤ) (k : ℕ) :
    (listed store q filters (stripeOf count k)).Perm
      (Splitting.stripe (fun record => hashStripe (stripeText record) (max count 1))
        (listed store q filters {}) k) := by
  have hstripe : (stripeOf count k).pass = fun record : ViolationRecord =>
      decide (hashStripe (stripeText record) (max count 1) = k) := by
    funext record
    simp [StripeQuery.pass, stripeOf]
  refine (Sorted.sortOn_perm _ _).trans ?_
  refine List.Perm.trans ?_ ((Sorted.sortOn_perm _ _).symm.filter _)
  rw [List.filter_filter, hstripe]
  apply List.Perm.of_eq
  apply List.filter_congr
  intro record _
  simp [StripeQuery.pass, Bool.and_comm]

omit [PyRuntime] [PyNumerals] [PyIsoDatetime] in
theorem hashStripe_lt (value : Text) (count : ℤ) :
    hashStripe value (max count 1) < (max count 1).toNat := by
  rw [hashStripe, max_eq_left (le_max_right count 1)]
  exact Nat.mod_lt _ (by omega)

/-- Nothing is lost by stripes and pages: all listings of a query fail alike, or each of them can
show a list in pages of any size, and the lists of the stripes are disjoint and are together the
list without stripes. -/
theorem stripes_and_pages (store : ViolationStore) (q : ListQuery) :
    (∃ e, ∀ stripe limit offset, listViolations store q stripe limit offset = .error e) ∨
    ∃ rows : StripeQuery → List ViolationRecord, (∀ stripe, Lists store q stripe (rows stripe)) ∧
      ∀ count : ℤ,
        let stripes := (List.range (max count 1).toNat).map fun k => rows (stripeOf count k)
        stripes.Pairwise List.Disjoint ∧ stripes.flatten.Perm (rows {}) := by
  obtain herror | ⟨filters, heq⟩ := listViolations_cases store q
  · exact .inl herror
  · refine .inr ⟨listed store q filters, fun stripe => lists_of_eq (heq stripe), ?_⟩
    intro count
    let key : ViolationRecord → ℕ := fun record => hashStripe (stripeText record) (max count 1)
    constructor
    · have hdisjoint := Splitting.pairwise_disjoint_stripe key (listed store q filters {})
        (max count 1).toNat
      rw [List.pairwise_map] at hdisjoint ⊢
      apply hdisjoint.imp
      intro k k' hkeys record hk hk'
      exact hkeys ((listed_stripe_perm filters count k).mem_iff.mp hk)
        ((listed_stripe_perm filters count k').mem_iff.mp hk')
    · rw [← List.flatMap_def]
      refine (List.Perm.flatMap_left _ fun k _ => listed_stripe_perm filters count k).trans ?_
      rw [List.flatMap_def]
      exact Splitting.flatten_stripe_perm key fun record _ => hashStripe_lt _ count

end Listing

end Exceptions

end DqMadeEasy
