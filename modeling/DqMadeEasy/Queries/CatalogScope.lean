import DqMadeEasy.Queries.Summary

/-!
# Filters by a scope of the catalog

A query that asks for a scope of the catalog is sound if it returns runs only that reference a suite
attached to the scope. The keys of the attached suites are passed on as `suite_keys or None`, so that
a scope without suites is not a filter, and a run whose delivery matches is kept before its suites
are looked at.
-/

namespace DqMadeEasy

namespace Queries

open Runs Worker

section CatalogScopes

variable [PyRuntime] [PyNumerals] {R : Repositories} {q : RunsQuery} {scope : RunScope}
  {run : RunEntity Text}

def referencesAttached (R : Repositories) (q : RunsQuery) (run : RunEntity Text) : Bool :=
  referencesAny run (attachedSuites R q.catalog)

def SuitesFilter (R : Repositories) (q : RunsQuery) : Prop :=
  normalizeScopeTerm q.deliveryId = [] ∧ attachedSuites R q.catalog ≠ []

instance : Decidable (SuitesFilter R q) := by
  unfold SuitesFilter
  infer_instance

def RunsQuery.otherScope (q : RunsQuery) (R : Repositories) : RunScope :=
  { q.scope R with suiteKeys := none }

/-! ### Matching -/

omit [PyRuntime] [PyNumerals] in
theorem suiteFilter_of_given (hgiven : q.catalog.Given) :
    suiteFilter R q.catalog =
      if attachedSuites R q.catalog = [] then none else some (attachedSuites R q.catalog) := by
  rw [suiteFilter, resolveSuiteKeysForScope, if_pos hgiven]
  cases attachedSuites R q.catalog with
  | nil => rfl
  | cons key keys => rw [if_neg (List.cons_ne_nil key keys)]

theorem referencesAny_nil (run : RunEntity Text) : referencesAny run [] = false :=
  List.any_eq_false.mpr fun _ _ => by simp

theorem runMatchesScope_otherPlan (hplan : scope.matchesPlan run = false) :
    runMatchesScope scope run = .ok false := by
  rw [runMatchesScope, hplan, if_pos (by decide)]

theorem runMatchesScope_delivery (hplan : scope.matchesPlan run = true)
    (hdelivery : normalizeScopeTerm scope.deliveryId ≠ []) :
    runMatchesScope scope run =
      .ok (extractRunDeliveryId run = some (normalizeScopeTerm scope.deliveryId)) := by
  rw [runMatchesScope, hplan, if_neg (by decide), if_pos hdelivery]

theorem runMatchesScope_suites {keys : List SuiteKey} (hplan : scope.matchesPlan run = true)
    (hdelivery : normalizeScopeTerm scope.deliveryId = []) (hkeys : scope.suiteKeys = some keys)
    (hne : keys ≠ []) :
    runMatchesScope scope run = (extractRunSuiteRefs run).map fun refs => refs.any (· ∈ keys) := by
  rw [runMatchesScope, hplan, if_neg (by decide), if_neg (by simpa using hdelivery), hkeys]
  cases keys with
  | nil => exact absurd rfl hne
  | cons key keys => rfl

theorem runMatchesScope_unfiltered (hplan : scope.matchesPlan run = true)
    (hdelivery : normalizeScopeTerm scope.deliveryId = []) (hkeys : scope.suiteKeys = none) :
    runMatchesScope scope run = .ok true := by
  rw [runMatchesScope, hplan, if_neg (by decide), if_neg (by simpa using hdelivery), hkeys]

theorem matchesPlan_of_matches (h : runMatchesScope scope run = .ok true) :
    scope.matchesPlan run = true := by
  cases hplan : scope.matchesPlan run with
  | true => rfl
  | false =>
    rw [runMatchesScope_otherPlan hplan] at h
    cases h

theorem any_extractRunSuiteRefs {keys : List SuiteKey} {answer : Bool}
    (h : (extractRunSuiteRefs run).map (fun refs => refs.any (· ∈ keys)) = .ok answer) :
    answer = referencesAny run keys := by
  cases hrefs : extractRunSuiteRefs run with
  | error e =>
    rw [hrefs] at h
    cases h
  | ok refs =>
    rw [hrefs] at h
    rw [← Except.ok.inj h, referencesAny, ← extractRunSuiteRefs_ok hrefs]

theorem referencesAttached_of_matches (hgiven : q.catalog.Given) (hsuites : SuitesFilter R q)
    (h : runMatchesScope (q.scope R) run = .ok true) : referencesAttached R q run = true := by
  have hkeys : (q.scope R).suiteKeys = some (attachedSuites R q.catalog) := by
    rw [RunsQuery.scope, suiteFilter_of_given hgiven, if_neg hsuites.2]
  rw [runMatchesScope_suites (matchesPlan_of_matches h) hsuites.1 hkeys hsuites.2] at h
  exact (any_extractRunSuiteRefs h).symm

/-- Elsewhere the scope of the catalog plays no part. -/
theorem runMatchesScope_otherScope (hgiven : q.catalog.Given) (hsuites : ¬SuitesFilter R q)
    (run : RunEntity Text) :
    runMatchesScope (q.scope R) run = runMatchesScope (q.otherScope R) run := by
  by_cases hdelivery : normalizeScopeTerm q.deliveryId = []
  · have hnone : attachedSuites R q.catalog = [] := by
      by_contra hne
      exact hsuites ⟨hdelivery, hne⟩
    have hkeys : (q.scope R).suiteKeys = none := by
      rw [RunsQuery.scope, suiteFilter_of_given hgiven, if_pos hnone]
    rw [show q.otherScope R = { q.scope R with suiteKeys := (q.scope R).suiteKeys } by
      rw [hkeys]; rfl]
  · cases hplan : (q.scope R).matchesPlan run with
    | false =>
      have hplan' : (q.otherScope R).matchesPlan run = false := hplan
      rw [runMatchesScope_otherPlan hplan, runMatchesScope_otherPlan hplan']
    | true =>
      have hplan' : (q.otherScope R).matchesPlan run = true := hplan
      rw [runMatchesScope_delivery hplan hdelivery, runMatchesScope_delivery hplan' hdelivery]
      rfl

/-- A query with some of the filters for a run plan and a delivery left out. -/
structure Relaxes (q q' : RunsQuery) : Prop where
  deliveryId : q'.deliveryId = q.deliveryId ∨ q'.deliveryId = none
  runPlanId : q'.runPlanId = q.runPlanId ∨ q'.runPlanId = none
  rest : q' = { q with deliveryId := q'.deliveryId, runPlanId := q'.runPlanId }

theorem Relaxes.matchesPlan {q' : RunsQuery} (hrelaxes : Relaxes q q')
    (h : (q.scope R).matchesPlan run = true) : (q'.scope R).matchesPlan run = true := by
  obtain ⟨-, hplan, hrest⟩ := hrelaxes
  rw [hrest]
  rcases hplan with hplan | hplan
  · rwa [hplan]
  · rw [hplan]
    simp only [RunScope.matchesPlan, RunsQuery.scope, Bool.and_eq_true] at h ⊢
    exact ⟨h.1, by simp [normalizeScopeTerm, Text.strip]⟩

/-- A run that matches a query and references an attached suite matches the relaxed query, unless
its references cannot be read. -/
theorem Relaxes.runMatchesScope {q' : RunsQuery} {answer : Bool} (hrelaxes : Relaxes q q')
    (hgiven : q.catalog.Given) (hrefs : referencesAttached R q run = true)
    (h : Queries.runMatchesScope (q.scope R) run = .ok true)
    (h' : Queries.runMatchesScope (q'.scope R) run = .ok answer) : answer = true := by
  have hplan := hrelaxes.matchesPlan (matchesPlan_of_matches h)
  obtain ⟨hdelivery, -, hrest⟩ := hrelaxes
  have hcatalog : q'.catalog = q.catalog := by rw [hrest]
  by_cases hblank : normalizeScopeTerm q'.deliveryId = []
  · have hsuites : (q'.scope R).suiteKeys =
        if attachedSuites R q.catalog = [] then none else some (attachedSuites R q.catalog) := by
      rw [RunsQuery.scope, hcatalog, suiteFilter_of_given hgiven]
    by_cases hnone : attachedSuites R q.catalog = []
    · rw [if_pos hnone] at hsuites
      rw [runMatchesScope_unfiltered hplan hblank hsuites] at h'
      exact (Except.ok.inj h').symm
    · rw [if_neg hnone] at hsuites
      rw [runMatchesScope_suites hplan hblank hsuites hnone] at h'
      rw [any_extractRunSuiteRefs h']
      exact hrefs
  · rcases hdelivery with hdelivery | hdelivery
    · have hdelivery' : (q'.scope R).deliveryId = (q.scope R).deliveryId := hdelivery
      have hne : normalizeScopeTerm (q.scope R).deliveryId ≠ [] := hdelivery' ▸ hblank
      rw [runMatchesScope_delivery (matchesPlan_of_matches h) hne] at h
      rw [runMatchesScope_delivery hplan hblank, hdelivery'] at h'
      exact (Except.ok.inj h').symm.trans (Except.ok.inj h)
    · exact absurd (by rw [hdelivery]; rfl) hblank

/-! ### Soundness -/

variable [PyCasefold] {now : ℤ}

def RunsQuery.examine (q : RunsQuery) (R : Repositories) (now : ℤ) (scope : RunScope) :
    RunEntity Text → Except PyError (Option GxExecutionRunSummary) :=
  examineRun (resolveNameMaps R (q.runs R now)) q.filters scope

/-- A filter by a scope of the catalog does what it says: a listing returns runs only that reference
an attached suite, and none if no suite is attached; the statistics count no others; and a listing
without a limit only shrinks when a filter for a delivery or a run plan is added. -/
structure CatalogScopeSound (R : Repositories) (now : ℤ) (q : RunsQuery) : Prop where
  listing : ∀ limit rows, listGxExecutionRunSummaries R now ⟨q, limit⟩ = .ok rows →
    ∀ row ∈ rows, ∃ run ∈ q.runs R now, run.id = row.id ∧ referencesAttached R q run = true
  listing_nil : attachedSuites R q.catalog = [] → ∀ limit rows,
    listGxExecutionRunSummaries R now ⟨q, limit⟩ = .ok rows → rows = []
  statistics : ∀ recentLimit stats, getGxExecutionRunStatistics R now ⟨q, recentLimit⟩ = .ok stats →
    stats.totalRuns ≤ (q.runs R now).countP (referencesAttached R q) ∧
      ∀ row ∈ stats.recentRuns, ∃ run ∈ q.runs R now,
        run.id = row.id ∧ referencesAttached R q run = true
  statistics_zero : attachedSuites R q.catalog = [] → ∀ recentLimit stats,
    getGxExecutionRunStatistics R now ⟨q, recentLimit⟩ = .ok stats → stats.totalRuns = 0
  shrinks : ∀ q', Relaxes q q' → ∀ rows rows',
    listGxExecutionRunSummaries R now ⟨q, none⟩ = .ok rows →
    listGxExecutionRunSummaries R now ⟨q', none⟩ = .ok rows' → rows.Sublist rows'

def OthersReference (R : Repositories) (now : ℤ) (q : RunsQuery) : Prop :=
  ∀ run ∈ Collect.reached (q.examine R now (q.otherScope R)) (q.runs R now), ∀ summary,
    q.examine R now (q.otherScope R) run = .ok (some summary) → referencesAttached R q run = true

theorem examine_otherScope (hgiven : q.catalog.Given) (hsuites : ¬SuitesFilter R q) :
    q.examine R now (q.scope R) = q.examine R now (q.otherScope R) := by
  funext run
  rw [RunsQuery.examine, RunsQuery.examine, examineRun, examineRun,
    runMatchesScope_otherScope hgiven hsuites]

theorem referencesAttached_of_examine (hgiven : q.catalog.Given)
    (hheld : SuitesFilter R q ∨ OthersReference R now q) {run : RunEntity Text}
    (hrun : run ∈ Collect.reached (q.examine R now (q.scope R)) (q.runs R now))
    {summary : GxExecutionRunSummary}
    (h : q.examine R now (q.scope R) run = .ok (some summary)) :
    referencesAttached R q run = true := by
  by_cases hsuites : SuitesFilter R q
  · exact referencesAttached_of_matches hgiven hsuites (examineRun_some.mp h).1
  · rw [examine_otherScope hgiven hsuites] at hrun h
    exact (hheld.resolve_left hsuites) run hrun summary h

theorem sublist_of_listing (hgiven : q.catalog.Given)
    (hheld : SuitesFilter R q ∨ OthersReference R now q) {limit : Option ℤ}
    {rows : List GxExecutionRunSummary}
    (h : listGxExecutionRunSummaries R now ⟨q, limit⟩ = .ok rows) :
    (rows.map GxExecutionRunSummary.id).Sublist
      (((q.runs R now).filter (referencesAttached R q)).map RunEntity.id) := by
  have hreached := Collect.collect_reached h
  have hsublist := Collect.collect_sublist (f := GxExecutionRunSummary.id) (g := RunEntity.id)
    (p := referencesAttached R q) (fun run hrun summary hfound =>
      ⟨referencesAttached_of_examine hgiven hheld hrun hfound,
        (buildGxExecutionRunSummary_ok (examineRun_some.mp hfound).2.1).1⟩) hreached
  exact hsublist.trans (((Collect.reached_sublist _ _).filter _).map _)

theorem exists_listing_of_statistics {recentLimit : ℤ} {stats : GxExecutionRunStatistics}
    (h : getGxExecutionRunStatistics R now ⟨q, recentLimit⟩ = .ok stats) :
    ∃ rows, listGxExecutionRunSummaries R now ⟨q, none⟩ = .ok rows ∧
      statisticsOf ⟨q, recentLimit⟩ rows = stats := by
  rw [getGxExecutionRunStatistics] at h
  cases hlist : listGxExecutionRunSummaries R now ⟨q, none⟩ with
  | error e =>
    rw [hlist] at h
    cases h
  | ok rows =>
    rw [hlist] at h
    exact ⟨rows, rfl, Except.ok.inj h⟩

/-- A listing shrinks when filters for a delivery or a run plan are added. -/
theorem sublist_of_relaxes (hgiven : q.catalog.Given)
    (hheld : SuitesFilter R q ∨ OthersReference R now q) {q' : RunsQuery}
    (hrelaxes : Relaxes q q') {rows rows' : List GxExecutionRunSummary}
    (h : listGxExecutionRunSummaries R now ⟨q, none⟩ = .ok rows)
    (h' : listGxExecutionRunSummaries R now ⟨q', none⟩ = .ok rows') : rows.Sublist rows' := by
  have hruns : q'.runs R now = q.runs R now := by rw [hrelaxes.rest]; rfl
  have hfilters : q'.filters = q.filters := by rw [hrelaxes.rest]
  rw [listGxExecutionRunSummaries, filterGxExecutionRunSummaries] at h'
  simp only [hruns, hfilters] at h'
  have hall : Collect.reached (q.examine R now (q.scope R)) (q.runs R now) = q.runs R now :=
    Collect.reached_of_collect h
  refine Collect.collect_mono (fun run hrun summary kept hfound hfound' => ?_) h h'
  rw [← hall] at hrun
  have hrefs := referencesAttached_of_examine hgiven hheld hrun hfound
  obtain ⟨hmatches, hbuilt, hpass⟩ := examineRun_some.mp hfound
  have hmatches' : ∀ answer, runMatchesScope (q'.scope R) run = .ok answer → answer = true :=
    fun answer hanswer => hrelaxes.runMatchesScope hgiven hrefs hmatches hanswer
  exact examineRun_of_matches hmatches' hbuilt hpass hfound'

omit [PyCasefold] in
theorem exists_run_of_mem {rows : List GxExecutionRunSummary} {row : GxExecutionRunSummary}
    (hsublist : (rows.map GxExecutionRunSummary.id).Sublist
      (((q.runs R now).filter (referencesAttached R q)).map RunEntity.id)) (hrow : row ∈ rows) :
    ∃ run ∈ q.runs R now, run.id = row.id ∧ referencesAttached R q run = true := by
  obtain ⟨run, hrun, hid⟩ :=
    List.mem_map.mp (hsublist.subset (List.mem_map_of_mem hrow))
  obtain ⟨hmem, hrefs⟩ := List.mem_filter.mp hrun
  exact ⟨run, hmem, hid, hrefs⟩

/-- A query that keeps runs only that reference an attached suite is sound. -/
theorem catalogScopeSound_of_held (hgiven : q.catalog.Given)
    (hheld : SuitesFilter R q ∨ OthersReference R now q) : CatalogScopeSound R now q := by
  have hnil : attachedSuites R q.catalog = [] →
      ((q.runs R now).filter (referencesAttached R q)) = [] := by
    intro hnone
    rw [List.filter_eq_nil_iff]
    intro run _
    rw [referencesAttached, hnone, referencesAny_nil]
    exact Bool.false_ne_true
  constructor
  · intro limit rows h row hrow
    exact exists_run_of_mem (sublist_of_listing hgiven hheld h) hrow
  · intro hnone limit rows h
    have hsublist := sublist_of_listing hgiven hheld h
    rw [hnil hnone, List.map_nil, List.sublist_nil, List.map_eq_nil_iff] at hsublist
    exact hsublist
  · intro recentLimit stats h
    obtain ⟨rows, hlist, rfl⟩ := exists_listing_of_statistics h
    have hsublist := sublist_of_listing hgiven hheld hlist
    refine ⟨?_, fun row hrow => exists_run_of_mem hsublist (mem_of_mem_takeRecent hrow)⟩
    have hlength := hsublist.length_le
    rw [List.length_map, List.length_map, ← List.countP_eq_length_filter] at hlength
    exact hlength
  · intro hnone recentLimit stats h
    obtain ⟨rows, hlist, rfl⟩ := exists_listing_of_statistics h
    have hsublist := sublist_of_listing hgiven hheld hlist
    rw [hnil hnone, List.map_nil, List.sublist_nil, List.map_eq_nil_iff] at hsublist
    rw [hsublist]
    rfl
  · exact fun q' hrelaxes rows rows' => sublist_of_relaxes hgiven hheld hrelaxes

theorem othersReference_of_sound (hgiven : q.catalog.Given) (hsuites : ¬SuitesFilter R q)
    (h : CatalogScopeSound R now q) : OthersReference R now q := by
  intro run hrun summary hfound
  have hreached : run ∈ Collect.reached (q.examine R now (q.scope R)) (q.runs R now) := by
    rwa [examine_otherScope hgiven hsuites]
  have hkept : q.examine R now (q.scope R) run = .ok (some summary) := by
    rwa [examine_otherScope hgiven hsuites]
  obtain ⟨limit, rows, hrows, -, hmem⟩ := Collect.exists_collect_of_reached hreached hkept 0
  obtain ⟨run', hrun', hid, hrefs⟩ := h.listing (some limit) rows hrows summary hmem
  have hsame : run' = run := by
    apply List.inj_on_of_nodup_map (R.nodup_listRuns _ _) hrun'
      ((Collect.reached_sublist _ _).subset hrun)
    rw [hid, (buildGxExecutionRunSummary_ok (examineRun_some.mp hfound).2.1).1]
  rwa [hsame] at hrefs

/-- A filter by a scope of the catalog is sound exactly if no delivery is asked for and some suite is
attached to the scope, or every run that passes the other filters references an attached suite. -/
theorem catalog_scope_sound_iff (hgiven : q.catalog.Given) :
    CatalogScopeSound R now q ↔ SuitesFilter R q ∨ OthersReference R now q := by
  refine ⟨fun h => ?_, catalogScopeSound_of_held hgiven⟩
  by_cases hsuites : SuitesFilter R q
  · exact .inl hsuites
  · exact .inr (othersReference_of_sound hgiven hsuites h)

/-- A listing of a run that references no attached suite is unsound. -/
theorem not_sound_of_listed (ids : List Text) (id : Text)
    (hlisted : ((listGxExecutionRunSummaries R now ⟨q, none⟩).map
      (List.map GxExecutionRunSummary.id)).toOption = some ids) (hid : id ∈ ids)
    (hrefs : ∀ run ∈ q.runs R now, run.id = id → referencesAttached R q run = false) :
    ¬CatalogScopeSound R now q := by
  intro h
  cases hlist : listGxExecutionRunSummaries R now ⟨q, none⟩ with
  | error e =>
    rw [hlist] at hlisted
    cases hlisted
  | ok rows =>
    rw [hlist] at hlisted
    rw [← Option.some.inj hlisted] at hid
    obtain ⟨row, hrow, rfl⟩ := List.mem_map.mp hid
    obtain ⟨run, hrun, hsame, href⟩ := h.listing none rows hlist row hrow
    exact Bool.false_ne_true ((hrefs run hrun hsame).symm.trans href)

end CatalogScopes

/-! ### An example -/

section Example

local instance sampleRuntimeCatalog : PyRuntime := .ascii (fun _ => .nan) (fun _ => [])

local instance sampleNumeralsCatalog : PyNumerals := ⟨fun _ => none, fun _ => none, id⟩

local instance sampleCasefold : PyCasefold := ⟨List.map Char.toLower, PyRuntime.lower_ascii⟩

/-- A contract that resolves a delivery. -/
def contractOf (deliveryId : String) : Artifacts.GxExecutionContract where
  engineType := some "gx"
  engineTarget := none
  executionShape := none
  traceability := none
  sourceMaterialization := none
  resolvedDataObjectVersionId := none
  resolvedDataDeliveryId := some deliveryId.toList
  resolvedDeliveryLocation := none
  deliveryResolutionMode := none
  selectionMode := none
  scopeSelector := []
  suiteRefs := []
  suiteCount := none
  batchCount := none
  extra := []

/-- A run of a suite on a delivery. -/
def runOf (id suiteId deliveryId : String) : RunEntity Text where
  id := id.toList
  suiteId := some suiteId.toList
  suiteVersion := some 1
  ruleId := none
  ruleVersionId := none
  correlationId := "correlation"
  requestedBy := none
  engineType := "gx"
  engineTarget := "pyspark"
  executionShape := "single_object"
  status := .succeeded
  submittedAt := []
  startedAt := none
  completedAt := none
  executionProgress := none
  executionContract := some (contractOf deliveryId)
  handoffPayload := none
  resultSummary := []
  metrics := none
  diagnostics := []
  failureCode := none
  failureMessage := none
  comments := none
  createdAt := 0
  updatedAt := 0
  statusHistory := []

/-- A suite on orders, a suite on payments, and a run of each on the delivery of its data. -/
def twoSuites : Repositories where
  listRuns _ _ := [runOf "run-1" "orders" "delivery-1", runOf "run-2" "payments" "delivery-2"]
  listPlans _ := []
  listSuites := listArtifacts
    [⟨⟨"orders", 1⟩, "active", none, some "orders-set", none, []⟩,
      ⟨⟨"payments", 1⟩, "active", none, some "payments-set", none, []⟩]
  getRuleById _ := none
  listDataObjectsCatalog := []
  listDataObjectVersions := []
  nodup_listRuns _ _ := by decide

/-- The query for a data set and, if one is given, a delivery. -/
def queryOf (datasetId : String) (deliveryId : Option Text) : RunsQuery where
  lookbackAmount := 24
  lookbackUnit := "hours"
  status := none
  filters := {}
  catalog := ⟨none, some datasetId.toList, none, none⟩
  deliveryId := deliveryId
  workspaceId := none
  runPlanId := none

/-- The runs of a data set. -/
theorem catalog_scope_sound_orders : CatalogScopeSound twoSuites 0 (queryOf "orders-set" none) :=
  (catalog_scope_sound_iff (by decide +kernel)).mpr (.inl (by decide +kernel))

/-- A data set without suites is not a filter. A run whose delivery is the one that is asked for is
listed for another data set. -/
theorem catalog_scope_sound_counterexample :
    ¬CatalogScopeSound twoSuites 0 (queryOf "customers-set" none) ∧
      ¬CatalogScopeSound twoSuites 0 (queryOf "orders-set" (some "delivery-2")) :=
  ⟨not_sound_of_listed ["run-1", "run-2"] "run-1" (by decide +kernel)
      (by decide) (by decide +kernel),
    not_sound_of_listed ["run-2"] "run-2" (by decide +kernel) (by decide)
      (by decide +kernel)⟩

end Example

end Queries

end DqMadeEasy
