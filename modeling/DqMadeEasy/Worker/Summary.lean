import Mathlib.Data.Bool.Count
import DqMadeEasy.Worker.Tally

/-!
# The summary of a run

`build_summary` rebuilds one rule result for every expectation from what the loop left behind:
the rule result of its index where the loop recorded one, and otherwise the absence of
diagnostics. `evaluation_accounts` shows that both readings agree with the counters of the loop.
-/

namespace DqMadeEasy

namespace Worker

section Summary

variable [PyRuntime] [PyNumerals]

def extractRuleId (expectation : Dict) : Json :=
  let candidates :=
    [(expectation.get "meta").dictOrEmpty.get "dq.rule_id", expectation.get "rule_id",
      expectation.get "ruleId"].map Json.strippedText
  match candidates.find? (· ≠ []) with
  | some ruleId => .scalar (.str ruleId)
  | none => .null

/-- The keys of `kwargs` that describe a threshold. -/
def thresholdKeys : List String :=
  ["operator", "threshold", "min_value", "max_value", "value", "unit"]

/-- How the measured value relates to the threshold. -/
def thresholdRelation (operator : Text) (passed : Bool) : String :=
  if operator = "gt" ∨ operator = "gte" then if passed then "met" else "below"
  else if operator = "lt" ∨ operator = "lte" then if passed then "met" else "above"
  else if operator = "between" then if passed then "within" else "outside"
  else if passed then "met" else "not_met"

def buildThresholdSummary (expectation : Dict) (passed : Bool) : Option Dict :=
  let kwargs := (expectation.get "kwargs").dictOrEmpty
  let threshold : Dict := (thresholdKeys.filter fun key => !(kwargs.get key).isNone).map
    fun key => entry key (kwargs.get key)
  if threshold = [] then none
  else
    let operator := PyRuntime.lower (threshold.get "operator").strippedText
    some (threshold ++ [entry "relation" (.text (thresholdRelation operator passed))])

def isText (value : Json) (t : String) : Bool :=
  match value with
  | .scalar (.str s) => s == t.toList
  | _ => false

/-- The rule result that the loop recorded for an index; a later one replaces an earlier one. -/
def evaluatedAt (evaluatedResults : List Dict) (index : ℕ) : Option Dict :=
  evaluatedResults.reverse.find? fun item =>
    (item.get "expectation_index").asInt? == some (index : ℤ)

def diagnosticsAt (diagnostics : List Dict) (index : ℕ) : List Dict :=
  diagnostics.filter fun d => expectationIndex? d == some (index : ℤ)

/-- `passed` of `_build_rule_results`. -/
def passedAt (diagnostics evaluatedResults : List Dict) (index : ℕ) : Bool :=
  match evaluatedAt evaluatedResults index with
  | some evaluated => isText (evaluated.get "result") "passed"
  | none => (diagnosticsAt diagnostics index).isEmpty

/-- `int(value)`. -/
def toInt (value : Json) : Except PyError ℤ :=
  convert "ValueError" "invalid literal for int()" value.toInt?

/-- `evaluated.get("records_succeeded")`, computed from the other counts when it is missing. -/
def recordsSucceeded (evaluated : Dict) (checkedRecords : Json) : Except PyError Json :=
  let succeeded := evaluated.get "records_succeeded"
  match succeeded.isNone, (evaluated.get "records_failed").asInt? with
  | true, some failed => do
    let checked ← toInt checkedRecords
    return .int (max 0 (checked - failed))
  | _, _ => .ok succeeded

/-- One rule result of `_build_rule_results`. -/
def buildResultItem (diagnostics evaluatedResults : List Dict) (recordsChecked index : ℕ)
    (expectation : Dict) : Except PyError Dict := do
  let failedDiagnostics := diagnosticsAt diagnostics index
  let evaluated := (evaluatedAt evaluatedResults index).getD []
  let passed := passedAt diagnostics evaluatedResults index
  let checkedRecords := (evaluated.find? "records_checked").getD (.int recordsChecked)
  let succeeded ← recordsSucceeded evaluated checkedRecords
  let expectationType :=
    (((expectation.get "expectation_type").orElse (expectation.get "check_type")).orElse
      (expectation.get "type")).strippedText
  let checked ← toInt checkedRecords
  let filteredOut ← toInt ((evaluated.find? "records_filtered_out").getD (.int 0))
  return [entry "expectation_index" (.int index), entry "rule_id" (extractRuleId expectation),
    entry "expectation_type"
      (if expectationType = [] then .null else .scalar (.str expectationType)),
    entry "result" (.text (if passed then "passed" else "failed")),
    entry "records_checked" (.int checked), entry "records_failed" (evaluated.get "records_failed"),
    entry "records_succeeded" succeeded, entry "records_filtered_out" (.int filteredOut)] ++
    ((buildThresholdSummary expectation passed).elim [] fun threshold =>
      [entry "threshold" (.dict threshold)]) ++
    (if failedDiagnostics = [] then []
      else [entry "diagnostic_count" (.int failedDiagnostics.length),
        entry "diagnostics" (.list (failedDiagnostics.map .dict))])

/-- `_build_rule_results` from an index on. -/
def buildRuleResults (diagnostics evaluatedResults : List Dict) (recordsChecked : ℕ) :
    ℕ → List Dict → Except PyError (List Dict)
  | _, [] => .ok []
  | index, expectation :: rest => do
    let item ← buildResultItem diagnostics evaluatedResults recordsChecked index expectation
    let items ← buildRuleResults diagnostics evaluatedResults recordsChecked (index + 1) rest
    return item :: items

/-- `build_summary` at a given time. -/
def buildSummary (now : Text) (expectations : List Dict) (passed failed rowCount : ℕ)
    (diagnostics evaluatedResults : List Dict) : Except PyError Dict := do
  let ruleResults ← buildRuleResults diagnostics evaluatedResults rowCount 0 expectations
  return [entry "started_at" (.scalar (.str now)), entry "completed_at" (.scalar (.str now)),
    entry "expectation_count" (.int expectations.length),
    entry "passed_expectation_count" (.int passed), entry "failed_expectation_count" (.int failed),
    entry "passed_count" (.int passed), entry "failed_count" (.int failed),
    entry "records_checked" (.int rowCount), entry "records_failed" .null,
    entry "records_succeeded" .null, entry "records_filtered_out" (.int 0),
    entry "rule_results" (.list (ruleResults.map .dict))]

def resultsMarked (summary : Dict) (mark : String) : ℕ :=
  ((summary.get "rule_results").asList?.getD []).countP fun item =>
    isText (item.dictOrEmpty.get "result") mark

end Summary

section Verdicts

theorem expectationIndex_buildRuleResult (index : ℕ) (verdict : Bool) (checked : ℕ)
    (failed : Option ℕ) (total : ℕ) :
    ((buildRuleResult index verdict checked failed total).get "expectation_index").asInt? =
      some (index : ℤ) := rfl

theorem result_buildRuleResult (index : ℕ) (verdict : Bool) (checked : ℕ) (failed : Option ℕ)
    (total : ℕ) :
    isText ((buildRuleResult index verdict checked failed total).get "result") "passed" =
      verdict := by
  cases verdict <;> rfl

variable [PyNumerals]

/-- The rule results and the diagnostics of a run, seen from its verdicts. -/
structure Reports (verdicts : List Bool) (diagnostics ruleResults : List Dict) : Prop where
  diagnostic : ∀ d ∈ diagnostics, ∃ i : ℕ,
    verdicts[i]? = some false ∧ expectationIndex? d = some (i : ℤ)
  failed : ∀ i : ℕ, verdicts[i]? = some false →
    ∃ d ∈ diagnostics, expectationIndex? d = some (i : ℤ)
  result : ∀ r ∈ ruleResults, ∃ (i : ℕ) (verdict : Bool), verdicts[i]? = some verdict ∧ Marks i verdict r

/-- A run that starts with nothing recorded. -/
theorem Tally.reports {verdicts : List Bool} {s s' : LoopState} (h : Tally 0 verdicts s s')
    (hdiagnostics : s.diagnostics = []) (hresults : s.ruleResults = []) :
    Reports verdicts s'.diagnostics s'.ruleResults := by
  obtain ⟨new, hd, hindex, hevery⟩ := h.diagnostics
  obtain ⟨results, hr, hmarks⟩ := h.ruleResults
  rw [hdiagnostics, List.nil_append] at hd
  rw [hresults, List.nil_append] at hr
  subst hd hr
  constructor
  · simpa using hindex
  · simpa using hevery
  · simpa using hmarks

variable {verdicts : List Bool} {diagnostics ruleResults : List Dict}

theorem Reports.evaluatedAt (h : Reports verdicts diagnostics ruleResults) {index : ℕ}
    {evaluated : Dict} (hfound : evaluatedAt ruleResults index = some evaluated) :
    ∃ verdict, verdicts[index]? = some verdict ∧ Marks index verdict evaluated := by
  have hmem := List.mem_of_find?_eq_some hfound
  rw [List.mem_reverse] at hmem
  obtain ⟨i, verdict, hi, checked, failed, total, rfl⟩ := h.result evaluated hmem
  have hindex := List.find?_some hfound
  rw [expectationIndex_buildRuleResult, beq_iff_eq, Option.some.injEq, Nat.cast_inj] at hindex
  subst hindex
  exact ⟨verdict, hi, checked, failed, total, rfl⟩

/-- `build_summary` reads the verdict of every index. -/
theorem Reports.passedAt (h : Reports verdicts diagnostics ruleResults) {index : ℕ}
    {verdict : Bool} (hverdict : verdicts[index]? = some verdict) :
    passedAt diagnostics ruleResults index = verdict := by
  rw [Worker.passedAt]
  cases hfound : Worker.evaluatedAt ruleResults index with
  | some evaluated =>
    obtain ⟨v, hv, checked, failed, total, rfl⟩ := h.evaluatedAt hfound
    rw [hverdict] at hv
    cases hv
    exact result_buildRuleResult index verdict checked failed total
  | none =>
    cases verdict with
    | false =>
      obtain ⟨d, hd, hindex⟩ := h.failed index hverdict
      have : d ∈ diagnosticsAt diagnostics index := List.mem_filter.mpr ⟨hd, by simp [hindex]⟩
      simp [List.ne_nil_of_mem this]
    | true =>
      have : diagnosticsAt diagnostics index = [] := by
        apply List.filter_eq_nil_iff.mpr
        intro d hd hindex
        obtain ⟨i, hi, hd⟩ := h.diagnostic d hd
        simp only [hd, beq_iff_eq, Option.some.injEq, Nat.cast_inj] at hindex
        subst hindex
        rw [hverdict] at hi
        cases hi
      simp [this]

variable [PyRuntime]

theorem Reports.buildResultItem (h : Reports verdicts diagnostics ruleResults) {index : ℕ}
    {verdict : Bool} (hverdict : verdicts[index]? = some verdict) (recordsChecked : ℕ)
    (expectation : Dict) :
    ∃ item, buildResultItem diagnostics ruleResults recordsChecked index expectation = .ok item ∧
      item.get "result" = .text (if verdict then "passed" else "failed") := by
  rw [Worker.buildResultItem, h.passedAt hverdict]
  cases hfound : Worker.evaluatedAt ruleResults index with
  | none => exact ⟨_, rfl, rfl⟩
  | some evaluated =>
    obtain ⟨v, _, checked, failed, total, rfl⟩ := h.evaluatedAt hfound
    cases failed with
    | none => exact ⟨_, rfl, rfl⟩
    | some n => exact ⟨_, rfl, rfl⟩

/-- The rule results from an index on, counted by their marks. -/
theorem Reports.buildRuleResults (h : Reports verdicts diagnostics ruleResults)
    (recordsChecked : ℕ) (expectations : List Dict) :
    ∀ (index : ℕ) (rest : List Bool), rest.length = expectations.length →
      (∀ i verdict, rest[i]? = some verdict → verdicts[index + i]? = some verdict) →
      ∃ items, buildRuleResults diagnostics ruleResults recordsChecked index expectations =
          .ok items ∧
        items.countP (fun item => isText (item.get "result") "passed") = rest.count true ∧
        items.countP (fun item => isText (item.get "result") "failed") = rest.count false := by
  induction expectations with
  | nil =>
    intro index rest hlength _
    rw [List.length_nil, List.length_eq_zero_iff] at hlength
    subst hlength
    exact ⟨[], rfl, rfl, rfl⟩
  | cons expectation expectations ih =>
    intro index rest hlength hverdicts
    cases rest with
    | nil => cases hlength
    | cons verdict rest =>
      obtain ⟨item, hitem, hresult⟩ := h.buildResultItem
        (by simpa using hverdicts 0 verdict rfl) recordsChecked expectation
      obtain ⟨items, hitems, hpassed, hfailed⟩ := ih (index + 1) rest
        (by simpa using hlength) (by
          intro i v hi
          rw [show index + 1 + i = index + (i + 1) by omega]
          exact hverdicts (i + 1) v (by simpa using hi))
      refine ⟨item :: items, ?_, ?_, ?_⟩
      · rw [Worker.buildRuleResults, hitem, ok_bind, hitems]
        rfl
      · rw [List.countP_cons, hpassed, hresult, List.count_cons]
        cases verdict <;> rfl
      · rw [List.countP_cons, hfailed, hresult, List.count_cons]
        cases verdict <;> rfl

end Verdicts

/-! ### The accounts of a run -/

section Accounts

variable [PyRuntime] [PyNumerals] {Frame : Type} (S : Spark Frame)

/-- The pass through the loop body at an index counts its expectation as failed. -/
def FailedAt (df : Frame) (expectations : List Dict) (primaryKeyFields : List Text)
    (index : ℕ) : Prop :=
  ∃ total start s s' expectation,
    getRowCount S df ⟨0, 0, [], [], []⟩ = .ok (total, start) ∧
    evaluateFrom S df (normalizePrimaryKeyFields primaryKeyFields) total 0
      (expectations.take index) start = .ok s ∧
    expectations[index]? = some expectation ∧
    evaluateExpectation S df (normalizePrimaryKeyFields primaryKeyFields) total index
      expectation s = .ok s' ∧
    s'.failed = s.failed + 1

/-- The index of an expectation that failed has a diagnostic at the end of the run. -/
theorem diagnostic_of_failedAt {df : Frame} {expectations : List Dict}
    {primaryKeyFields : List Text} {index : ℕ}
    (hfailed : FailedAt S df expectations primaryKeyFields index) {ok : Bool}
    {summary : EvaluationSummary} {diagnostics : List Dict}
    (h : evaluateExpectationsSpark S df expectations primaryKeyFields =
      .ok (ok, summary, diagnostics)) :
    ∃ d ∈ diagnostics, expectationIndex? d = some (index : ℤ) := by
  obtain ⟨total, start, s, s', expectation, hstart, htake, hget, hstep, hcount⟩ := hfailed
  rw [evaluateExpectationsSpark, hstart, ok_bind] at h
  obtain ⟨final, hrun, h⟩ := ok_of_bind h
  cases h
  have hlt : index < expectations.length := by
    by_contra hge
    rw [List.getElem?_eq_none (not_lt.mp hge)] at hget
    cases hget
  have hsplit : expectations = expectations.take index ++ expectation :: expectations.drop (index + 1) := by
    rw [List.getElem?_eq_getElem hlt, Option.some.injEq] at hget
    rw [← hget, ← List.drop_eq_getElem_cons hlt, List.take_append_drop]
  rw [hsplit, evaluateFrom_append, htake, ok_bind, List.length_take, Nat.min_eq_left hlt.le,
    Nat.zero_add, evaluateFrom, hstep, ok_bind] at hrun
  obtain ⟨verdict, hsettled⟩ := evaluateExpectation_settles S hstep
  have hfalse : verdict = false := by
    have := hsettled.failed
    cases verdict with
    | false => rfl
    | true => simp at this; omega
  subst hfalse
  obtain ⟨new, hnew, hindex, hempty⟩ := hsettled.diagnostics
  obtain ⟨verdicts, _, htally⟩ := evaluateFrom_tally S df _ total _ hrun
  obtain ⟨later, hlater, _⟩ := htally.diagnostics
  cases new with
  | nil => simp at hempty
  | cons d new =>
    exact ⟨d, by rw [hlater, hnew]; simp, hindex d (by simp)⟩

/-- A returning run has verdicts that its counters count and its records report. -/
theorem evaluateExpectationsSpark_reports {df : Frame} {expectations : List Dict}
    {primaryKeyFields : List Text} {ok : Bool} {summary : EvaluationSummary}
    {diagnostics : List Dict}
    (h : evaluateExpectationsSpark S df expectations primaryKeyFields =
      .ok (ok, summary, diagnostics)) :
    ∃ verdicts : List Bool, verdicts.length = expectations.length ∧
      summary.passedExpectationCount = verdicts.count true ∧
      summary.failedExpectationCount = verdicts.count false ∧
      ok = decide (summary.failedExpectationCount = 0) ∧
      Reports verdicts diagnostics summary.ruleResults := by
  obtain ⟨⟨total, start⟩, hstart, h⟩ := ok_of_bind h
  obtain ⟨counts, rfl⟩ := getRowCount_ok S hstart
  obtain ⟨final, hrun, h⟩ := ok_of_bind h
  obtain ⟨verdicts, hlength, htally⟩ := evaluateFrom_tally S df _ total _ hrun
  cases h
  exact ⟨verdicts, hlength, by simpa using htally.passed, by simpa using htally.failed, rfl,
    htally.reports rfl rfl⟩

/-- What a returning run reports: the counters cover the list, the flag says that none failed,
every failed index has a diagnostic, and the rebuilt rule results carry the same counts. -/
theorem evaluation_accounts (df : Frame) (expectations : List Dict) (primaryKeyFields : List Text)
    (now : Text) {ok : Bool} {summary : EvaluationSummary} {diagnostics : List Dict}
    (h : evaluateExpectationsSpark S df expectations primaryKeyFields =
      .ok (ok, summary, diagnostics)) :
    summary.passedExpectationCount + summary.failedExpectationCount = expectations.length ∧
    (ok = true ↔ summary.failedExpectationCount = 0) ∧
    (∀ index, FailedAt S df expectations primaryKeyFields index →
      ∃ d ∈ diagnostics, expectationIndex? d = some (index : ℤ)) ∧
    ∃ built, buildSummary now expectations summary.passedExpectationCount
        summary.failedExpectationCount summary.rowCount diagnostics summary.ruleResults =
          .ok built ∧
      resultsMarked built "passed" = summary.passedExpectationCount ∧
      resultsMarked built "failed" = summary.failedExpectationCount := by
  obtain ⟨verdicts, hlength, hpassed, hfailed, hok, hreports⟩ :=
    evaluateExpectationsSpark_reports S h
  refine ⟨?_, ?_, fun index hindex => diagnostic_of_failedAt S hindex h, ?_⟩
  · rw [hpassed, hfailed, ← hlength, List.count_true_add_count_false]
  · rw [hok, decide_eq_true_iff]
  · obtain ⟨items, hitems, htrue, hfalse⟩ := hreports.buildRuleResults
      summary.rowCount expectations 0 verdicts hlength (by simp)
    have hmarked : ∀ mark, ((items.map Json.dict).countP fun item =>
        isText (item.dictOrEmpty.get "result") mark) =
          items.countP fun item => isText (item.get "result") mark := by
      intro mark
      rw [List.countP_map]
      rfl
    refine ⟨_, by rw [buildSummary, hitems]; rfl, ?_, ?_⟩
    · rw [hpassed, ← htrue, ← hmarked]
      rfl
    · rw [hfailed, ← hfalse, ← hmarked]
      rfl

end Accounts

section Example

def sampleRow (value : RowValue) : RowValue := .mapping [("a", value)] []

def sampleMeets (row : RowValue) : Column → Bool
  | .isNull (.col name) => (row.resolve [name]).text == "None"
  | _ => true

/-- Frames that are lists of rows with a column `a`. -/
def sampleSpark : Spark (List RowValue) where
  columns _ := ["a"]
  address frame := frame.length
  filter frame condition := .ok (frame.filter fun row => sampleMeets row condition)
  count frame := .ok frame.length
  collect frame := .ok frame
  takeFirst frame := .ok frame.head?
  repeats _ _ := .ok false
  registered _ := false
  native _ _ _ := .error (.builtin "ValueError" "no native runner")

local instance sampleRuntimeSummary : PyRuntime := .ascii (fun _ => .nan) (fun _ => [])

local instance sampleNumerals : PyNumerals := ⟨fun _ => none, fun _ => none, id⟩

def sampleFrame : List RowValue := [sampleRow (.scalar "1"), sampleRow .missing]

/-- The missing value breaks the first expectation and nothing breaks the second. -/
def sampleExpectations : List Dict :=
  [[entry "expectation_type" (.text "expect_column_values_to_not_be_null"),
      entry "kwargs" (.dict [entry "column" (.text "a")])],
    [entry "expectation_type" (.text "expect_column_values_to_be_unique"),
      entry "kwargs" (.dict [entry "column" (.text "a")])]]

theorem evaluation_accounts_sample : ∃ ok summary diagnostics,
    evaluateExpectationsSpark sampleSpark sampleFrame sampleExpectations [] =
      .ok (ok, summary, diagnostics) ∧
    summary.passedExpectationCount + summary.failedExpectationCount = 2 := by
  cases h : evaluateExpectationsSpark sampleSpark sampleFrame sampleExpectations [] with
  | error error =>
    have hok : (evaluateExpectationsSpark sampleSpark sampleFrame sampleExpectations []).isOk =
      true := by decide +kernel
    rw [h] at hok
    cases hok
  | ok result =>
    exact ⟨_, _, _, rfl, (evaluation_accounts sampleSpark sampleFrame sampleExpectations [] [] h).1⟩

end Example

end Worker

end DqMadeEasy
