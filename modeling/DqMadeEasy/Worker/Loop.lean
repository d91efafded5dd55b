import DqMadeEasy.Logic.Fallible
import DqMadeEasy.Worker.Frame

/-!
# The evaluation loop

`evaluate_expectations_spark` walks the expectations as the dispatch message carries them: each
is a dictionary with an `expectation_type` and `kwargs`. Every pass through the loop body counts
the expectation as passed or failed, appends diagnostics when it failed, and, when the body
reaches its end, appends a rule result.

The counters, the diagnostics and the rule results are separate fields of the loop state, and
every branch updates the ones its source branch updates.
-/

namespace DqMadeEasy

namespace Worker

/-- The variables that the loop of `evaluate_expectations_spark` updates. -/
structure LoopState where
  passed : ℕ
  failed : ℕ
  diagnostics : List Dict
  ruleResults : List Dict
  /-- `computed_row_counts`, by address of the frame. -/
  computedRowCounts : List (ℕ × ℕ)

namespace LoopState

/-- `passed += 1`. -/
def pass (s : LoopState) : LoopState := { s with passed := s.passed + 1 }

/-- `failed += 1; diagnostics.append(diagnostic)`. -/
def fail (s : LoopState) (diagnostic : Dict) : LoopState :=
  { s with failed := s.failed + 1, diagnostics := s.diagnostics ++ [diagnostic] }

/-- `rule_results.append(result)`. -/
def record (s : LoopState) (result : Dict) : LoopState :=
  { s with ruleResults := s.ruleResults ++ [result] }

end LoopState

/-- An entry of a dictionary display. -/
def entry (key : String) (value : Json) : Text × Json := (key.toList, value)

/-- `GxWorkerExecutionError(…, failure_code="GX_WORKER_INVALID_EXPECTATION")`. -/
def invalidExpectation {α : Type} (expectationType : Text) (what : String) : Except PyError α :=
  .error (.execution ("Expectation '" ++ String.ofList expectationType ++ "' " ++ what)
    "GX_WORKER_INVALID_EXPECTATION" none none)

/-- A conversion that raises on `none`. -/
def convert {α : Type} (className what : String) : Option α → Except PyError α
  | some value => .ok value
  | none => .error (.builtin className what)

variable [PyRuntime] [PyNumerals] {Frame : Type} (S : Spark Frame)

/-! ### Diagnostics and rule results -/

def texts (values : List Text) : Json := .list (values.map fun t => .scalar (.str t))

/-- The diagnostic of missing columns. -/
def missingColumnsDiagnostic (index : ℕ) (expectationType : Text) (columns : List Text) : Dict :=
  [entry "reason" (.text "missing_column"), entry "expectation_index" (.int index),
    entry "expectation_type" (.scalar (.str expectationType)), entry "columns" (texts columns),
    entry "message" (.scalar (.str
      ("Column(s) missing: " ++ Text.join ", " columns)))]

/-- The diagnostic of one missing column. -/
def missingColumnDiagnostic (index : ℕ) (expectationType column : Text) : Dict :=
  [entry "reason" (.text "missing_column"), entry "expectation_index" (.int index),
    entry "expectation_type" (.scalar (.str expectationType)),
    entry "column" (.scalar (.str column)),
    entry "message" (.scalar (.str ("Column '" ++ column ++ "' not found")))]

/-- The two entries that carry a row identifier. -/
def rowIdentifierEntries : Option Text → Dict
  | some identifier =>
    [entry "row_identifier" (.scalar (.str identifier)),
      entry "data_primary_key" (.scalar (.str identifier))]
  | none => []

def failedColumnDiagnostic (index : ℕ) (expectationType column : Text) : Dict :=
  [entry "reason" (.text "expectation_failed"), entry "expectation_index" (.int index),
    entry "expectation_type" (.scalar (.str expectationType)),
    entry "column" (.scalar (.str column)), entry "message" (.text "Expectation failed")]

def buildRowFailureDiagnostics (frame : Frame) (failureCondition : Column)
    (primaryKeyFields : List Text) (index : ℕ) (expectationType column : Text) :
    Except PyError (List Dict) := do
  let failing ← S.filter frame failureCondition
  let rows ← S.collect failing
  return rows.filterMap fun row => (row.identifier primaryKeyFields).map fun identifier =>
    failedColumnDiagnostic index expectationType column ++ rowIdentifierEntries (some identifier)

def buildRuleResult (index : ℕ) (passed : Bool) (recordsChecked : ℕ) (recordsFailed : Option ℕ)
    (totalRecords : ℕ) : Dict :=
  [entry "expectation_index" (.int index),
    entry "result" (.text (if passed then "passed" else "failed")),
    entry "records_checked" (.int recordsChecked),
    entry "records_failed" (recordsFailed.elim .null fun n => .int n),
    entry "records_succeeded" (recordsFailed.elim .null fun n => .int (recordsChecked - n)),
    entry "records_filtered_out" (.int (max 0 ((totalRecords : ℤ) - recordsChecked)))]

/-- `_get_row_count`: the count of a frame, kept under the frame's address. -/
def getRowCount (frame : Frame) (s : LoopState) : Except PyError (ℕ × LoopState) :=
  match s.computedRowCounts.lookup (S.address frame) with
  | some n => .ok (n, s)
  | none => do
    let n ← S.count frame
    return (n, { s with computedRowCounts := (S.address frame, n) :: s.computedRowCounts })

/-! ### The native runner -/

mutual

def collectRowConditionColumns : Json → List Text
  | .dict entries =>
    let conditionType := PyRuntime.lower (Dict.get entries "type").strippedText
    if conditionType = "and" ∨ conditionType = "or" then
      collectInConditions entries
    else
      match Dict.get entries "column" with
      | .dict column =>
        let name := (Dict.get column "name").strippedText
        if name = [] then [] else [name]
      | _ => []
  | _ => []

/-- The columns of the conditions under the key `conditions`. -/
def collectInConditions : List (Text × Json) → List Text
  | [] => []
  | (key, .list items) :: entries =>
    if key = "conditions" then collectInItems items else collectInConditions entries
  | (key, _) :: entries => if key = "conditions" then [] else collectInConditions entries

def collectInItems : List Json → List Text
  | [] => []
  | item :: items => collectRowConditionColumns item ++ collectInItems items

end

def supportsNativeGxExecution (expectationType : Text) : Bool :=
  expectationType == "expect_query_results_to_match_comparison"

def presentTexts (values : List Json) : List Text := (values.map (·.str.strip)).filter (· ≠ [])

def requiredColumnsForExpectation (expectationType : Text) (kwargs : Dict) : List Text :=
  if expectationType = "expect_query_results_to_match_comparison" then []
  else
    let columns :=
      if expectationType = "expect_compound_columns_to_be_unique" then
        presentTexts ((kwargs.get "columns").asList?.getD [])
      else if expectationType = "expect_column_pair_values_to_be_equal" then
        [(kwargs.get "column_A").strippedText, (kwargs.get "column_B").strippedText].filter (· ≠ [])
      else [(kwargs.get "column").strippedText].filter (· ≠ [])
    (columns ++ collectRowConditionColumns (kwargs.get "row_condition")).eraseDups

def validate (frame : Frame) (expectation : Dict) : Except PyError (Bool × Option Dict) :=
  let expectationType := (expectation.get "expectation_type").strippedText
  if S.registered expectationType = false then
    .error (.execution
      ("Native GX expectation '" ++ String.ofList expectationType ++ "' is not registered")
      "GX_WORKER_UNSUPPORTED_EXPECTATION" none none)
  else
    match S.native frame expectationType expectation with
    | .error cause =>
      .error (.execution ("Native GX validation failed for '" ++ String.ofList expectationType ++
        "': " ++ String.ofList cause.message) "GX_WORKER_EXECUTION_ERROR" none (some cause))
    | .ok (true, _) => .ok (true, none)
    | .ok (false, result) =>
      .ok (false, some [entry "reason" (.text "expectation_failed"),
        entry "expectation_type" (.scalar (.str expectationType)),
        entry "message" (.text "Expectation failed"),
        entry "gx_result" (result.asDict?.elim .null .dict)])

/-- The diagnostic of a failed native run. -/
def nativeDiagnostic (index : ℕ) (expectationType : Text) (nativeFailure : Option Dict) : Dict :=
  Dict.merge [entry "expectation_index" (.int index)] (nativeFailure.getD
    [entry "reason" (.text "expectation_failed"),
      entry "expectation_type" (.scalar (.str expectationType)),
      entry "message" (.text "Expectation failed")])

/-- The update after a native run. -/
def settleNative (index : ℕ) (expectationType : Text) (s : LoopState) :
    Bool × Option Dict → LoopState
  | (true, _) => s.pass
  | (false, nativeFailure) => s.fail (nativeDiagnostic index expectationType nativeFailure)

/-! ### The branches about a column -/

/-- What a branch about a column works on. -/
structure Call (Frame : Type) where
  index : ℕ
  expectationType : Text
  kwargs : Dict
  dfColumns : List Text
  scopedDf : Frame
  column : Text

/-- How a branch ends: with `continue`, or with `has_failure` and `failure_condition` set. -/
inductive Branch where
  | next (s : LoopState)
  | tested (hasFailure : Bool) (failureCondition : Option Column)

namespace Call

variable {Frame : Type} (S : Spark Frame) (c : Call Frame)

/-- `F.col(column)`. -/
def col : Column := .col c.column

def argument (key : String) : Text := (c.kwargs.get key).strippedText

/-- `bool(kwargs.get(key))`. -/
def flag (key : String) : Bool := (c.kwargs.get key).truthy

def testRows (failureCondition : Column) : Except PyError Branch := do
  let failing ← S.filter c.scopedDf failureCondition
  let first ← S.takeFirst failing
  return .tested first.isSome (some failureCondition)

def missing (name : Text) (s : LoopState) : Branch :=
  .next (s.fail (missingColumnDiagnostic c.index c.expectationType name))

/-- Refuses the arguments. -/
def refuse {α : Type} (what : String) : Except PyError α :=
  invalidExpectation c.expectationType what

/-- The column lies within the bounds that are given. -/
def inRange : Column :=
  let minValue := c.kwargs.get "min_value"
  let maxValue := c.kwargs.get "max_value"
  let low : Column :=
    if minValue.isNone then .lit (.scalar (.bool true))
    else .and (.lit (.scalar (.bool true)))
      (.compare (if c.flag "strict_min" then ">" else ">=") c.col (.lit minValue))
  if maxValue.isNone then low
  else .and low (.compare (if c.flag "strict_max" then "<" else "<=") c.col (.lit maxValue))

/-- Neither bound is given. -/
def noBounds : Bool := (c.kwargs.get "min_value").isNone && (c.kwargs.get "max_value").isNone

/-- `expect_column_values_to_not_be_null`. -/
def notBeNull (_ : LoopState) : Except PyError Branch := c.testRows S (.isNull c.col)

/-- `expect_column_values_to_be_null`. -/
def beNull (_ : LoopState) : Except PyError Branch := c.testRows S (.isNotNull c.col)

/-- `expect_column_values_to_be_unique`. -/
def beUnique (_ : LoopState) : Except PyError Branch := do
  let repeated ← S.repeats c.scopedDf [.scalar (.str c.column)]
  return .tested repeated none

/-- Which rows of a pair comparison are evaluated. -/
def evaluatedRows (left right : Column) : Except PyError Column :=
  let given := c.kwargs.get "ignore_row_if"
  let ignoreRowIf := PyRuntime.lower (given.orElse (.text "both_values_are_missing")).strippedText
  if ignoreRowIf = "both_values_are_missing" then
    .ok (.not (.and (.isNull left) (.isNull right)))
  else if ignoreRowIf = "either_value_is_missing" then
    .ok (.and (.isNotNull left) (.isNotNull right))
  else if ignoreRowIf = "neither" then .ok (.lit (.scalar (.bool true)))
  else c.refuse ("has unsupported ignore_row_if '" ++ String.ofList ignoreRowIf ++ "'")

/-- `expect_column_pair_values_to_be_equal`. -/
def pairEqual (s : LoopState) : Except PyError Branch :=
  let otherColumn := c.argument "column_B"
  let leftColumn := ((c.kwargs.get "column_A").orElse (.scalar (.str c.column))).str.strip
  if leftColumn = [] ∨ otherColumn = [] then c.refuse "requires column_A and column_B"
  else if leftColumn ∉ c.dfColumns then .ok (c.missing leftColumn s)
  else if otherColumn ∉ c.dfColumns then .ok (c.missing otherColumn s)
  else do
    let left : Column := .col leftColumn
    let right : Column := .col otherColumn
    let evaluated ← c.evaluatedRows left right
    c.testRows S (.and evaluated
      (.or (.or (.isNull left) (.isNull right)) (.compare "!=" left right)))

/-- `expect_column_values_to_be_between_for_other_column_value`. -/
def betweenForOther (s : LoopState) : Except PyError Branch :=
  let otherColumn := c.argument "other_column"
  let otherValue := c.kwargs.get "other_value"
  if otherColumn = [] then c.refuse "requires other_column"
  else if otherValue.isNone then c.refuse "requires other_value"
  else if c.noBounds then c.refuse "requires at least one of min_value or max_value"
  else if otherColumn ∉ c.dfColumns then .ok (c.missing otherColumn s)
  else
    c.testRows S (.and (.compare "=" (.col otherColumn) (.lit otherValue))
      (.or (.isNull c.col) (.not c.inRange)))

/-- `expect_column_values_to_be_in_set_for_other_column_value`. -/
def inSetForOther (s : LoopState) : Except PyError Branch :=
  let otherColumn := c.argument "other_column"
  let otherValue := c.kwargs.get "other_value"
  if otherColumn = [] then c.refuse "requires other_column"
  else if otherValue.isNone then c.refuse "requires other_value"
  else
    match (c.kwargs.get "value_set").asList? with
    | none => c.refuse "requires value_set list"
    | some valueSet =>
      if otherColumn ∉ c.dfColumns then .ok (c.missing otherColumn s)
      else
        let caseSensitive :=
          ((c.kwargs.find? "case_sensitive").getD (.scalar (.bool true))).truthy
        let allowed : Column :=
          if caseSensitive then .isin c.col valueSet
          else .isin (.lower (.castString c.col))
            (valueSet.map fun item => .scalar (.str (PyRuntime.lower item.str)))
        c.testRows S (.and (.compare "=" (.col otherColumn) (.lit otherValue))
          (.or (.isNull c.col) (.not allowed)))

/-- A comparison with another column, whose condition the type decides. -/
def compareOther (condition : Column → Except PyError Column) (s : LoopState) :
    Except PyError Branch :=
  let otherColumn := c.argument "other_column"
  if otherColumn = [] then c.refuse "requires other_column"
  else if otherColumn ∉ c.dfColumns then .ok (c.missing otherColumn s)
  else do
    let failureCondition ← condition (.col otherColumn)
    c.testRows S failureCondition

/-- `expect_column_values_to_equal_other_column`. -/
def equalOther : LoopState → Except PyError Branch :=
  c.compareOther S fun other =>
    .ok (.or (.or (.isNull c.col) (.isNull other)) (.compare "!=" c.col other))

/-- `expect_column_values_to_equal_other_column_case_insensitive`. -/
def equalOtherCaseInsensitive : LoopState → Except PyError Branch :=
  c.compareOther S fun other =>
    .ok (.or (.or (.isNull c.col) (.isNull other))
      (.compare "!=" (.lower (.castString c.col)) (.lower (.castString other))))

/-- `expect_column_values_to_be_within_numeric_tolerance_of_other_column`. -/
def withinNumericTolerance : LoopState → Except PyError Branch :=
  c.compareOther S fun other =>
    let tolerance := c.kwargs.get "tolerance"
    if tolerance.isNone then c.refuse "requires tolerance"
    else do
      let bound ← convert "ValueError" "could not convert to float" tolerance.toFloat?
      return .or (.or (.isNull c.col) (.isNull other))
        (.compare ">" (.abs (.minus c.col other)) (.lit (.scalar (.float bound))))

/-- `expect_column_timestamps_to_be_within_tolerance_of_other_column`. -/
def timestampsWithinTolerance : LoopState → Except PyError Branch :=
  c.compareOther S fun other =>
    let maxDifference := c.kwargs.get "max_difference"
    let unit := PyRuntime.lower (c.argument "difference_unit")
    if maxDifference.isNone then c.refuse "requires max_difference"
    else if unit ∉ ["minute", "minutes", "hour", "hours", "day", "days"].map String.toList then
      c.refuse ("has unsupported difference_unit '" ++ String.ofList unit ++ "'")
    else do
      let divisor : PyFloat :=
        if "minute".toList.isPrefixOf unit then .finite 60
        else if "hour".toList.isPrefixOf unit then .finite 3600
        else .finite 86400
      let left : Column := .toTimestamp c.col
      let right : Column := .toTimestamp other
      let bound ← convert "ValueError" "could not convert to float" maxDifference.toFloat?
      return .or (.or (.isNull left) (.isNull right))
        (.compare ">" (.divide (.abs (.minus (.unixTimestamp left) (.unixTimestamp right)))
          (.lit (.scalar (.float divisor)))) (.lit (.scalar (.float bound))))

/-- A float lies on the right side of a bound that is given. -/
def floatBound (key : String) (holds : PyFloat → Bool) : Except PyError Bool :=
  let value := c.kwargs.get key
  if value.isNone then .ok true
  else do
    let bound ← convert "ValueError" "could not convert to float" value.toFloat?
    return holds bound

/-- The proportion of present values among a number of rows. -/
def proportion (rowCount : ℕ) : Except PyError PyFloat :=
  if rowCount = 0 then .ok (.finite 0)
  else do
    let present ← S.filter c.scopedDf (.isNotNull c.col)
    let nonNullCount ← S.count present
    return PyRuntime.roundFloat (nonNullCount / rowCount)

/-- `expect_column_proportion_of_non_null_values_to_be_between`. -/
def nonNullProportion (_ : LoopState) : Except PyError Branch := do
  let rowCount ← S.count c.scopedDf
  let proportion ← c.proportion S rowCount
  let lowerOk ← c.floatBound "min_value" fun low =>
    if c.flag "strict_min" then low.lt proportion else low.le proportion
  let upperOk ← c.floatBound "max_value" fun high =>
    if c.flag "strict_max" then proportion.lt high else proportion.le high
  return .tested (!(lowerOk && upperOk)) none

/-- `expect_column_values_to_be_in_set` and its negation. -/
def inSet (negated : Bool) (_ : LoopState) : Except PyError Branch :=
  match (c.kwargs.get "value_set").asList? with
  | none => c.refuse "requires value_set list"
  | some valueSet =>
    let member : Column := .isin c.col valueSet
    c.testRows S (.and (.isNotNull c.col) (if negated then member else .not member))

/-- `expect_column_values_to_be_between` and its negation. -/
def between (negated : Bool) (_ : LoopState) : Except PyError Branch :=
  if c.noBounds then c.refuse "requires at least one of min_value or max_value"
  else c.testRows S (.and (.isNotNull c.col) (if negated then c.inRange else .not c.inRange))

/-- `expect_column_values_to_match_regex` and its negation. -/
def matchRegex (negated : Bool) (_ : LoopState) : Except PyError Branch :=
  let given := c.kwargs.get "regex"
  let regex := if given.truthy then given.str else []
  if regex = [] then c.refuse "requires regex"
  else
    let found : Column := .rlike (.castString c.col) regex
    c.testRows S
      (if negated then .and (.isNotNull c.col) found else .or (.isNull c.col) (.not found))

/-- `expect_column_values_to_be_within_past_days`. -/
def withinPastDays (_ : LoopState) : Except PyError Branch :=
  let maxDaysOld := c.kwargs.get "max_days_old"
  let anchor := PyRuntime.lower ((c.kwargs.get "anchor").orElse (.text "now")).strippedText
  if maxDaysOld.isNone then c.refuse "requires max_days_old"
  else if anchor ≠ "now" then c.refuse "supports only anchor='now'"
  else do
    let columnTs : Column := .toTimestamp c.col
    let bound ← convert "ValueError" "could not convert to float" maxDaysOld.toFloat?
    c.testRows S (.or (.isNull columnTs)
      (.compare ">" (.divide (.minus (.unixTimestamp .currentTimestamp) (.unixTimestamp columnTs))
        (.lit (.scalar (.float (.finite 86400))))) (.lit (.scalar (.float bound)))))

/-- `expect_column_pair_values_to_have_max_lag_hours`. -/
def maxLagHours (s : LoopState) : Except PyError Branch :=
  let startColumn := c.argument "start_column"
  let maxHours := c.kwargs.get "max_hours"
  if startColumn = [] then c.refuse "requires start_column"
  else if maxHours.isNone then c.refuse "requires max_hours"
  else if startColumn ∉ c.dfColumns then .ok (c.missing startColumn s)
  else do
    let startTs : Column := .toTimestamp (.col startColumn)
    let endTs : Column := .toTimestamp c.col
    let bound ← convert "ValueError" "could not convert to float" maxHours.toFloat?
    c.testRows S (.or (.or (.isNull startTs) (.isNull endTs))
      (.compare ">" (.divide (.minus (.unixTimestamp endTs) (.unixTimestamp startTs))
        (.lit (.scalar (.float (.finite 3600))))) (.lit (.scalar (.float bound)))))

/-- `expect_column_values_to_not_be_in_future`. -/
def notInFuture (_ : LoopState) : Except PyError Branch :=
  let referenceTime := c.kwargs.get "reference_time"
  let columnTs : Column := .toTimestamp c.col
  let referenceTs : Column :=
    if referenceTime.isNone then .currentTimestamp else .toTimestamp (.lit referenceTime)
  c.testRows S (.or (.isNull columnTs) (.compare ">" columnTs referenceTs))

/-- The branch of each expectation type. -/
def branches : List (String × (LoopState → Except PyError Branch)) :=
  [("expect_column_values_to_not_be_null", c.notBeNull S),
    ("expect_column_values_to_be_unique", c.beUnique S),
    ("expect_column_pair_values_to_be_equal", c.pairEqual S),
    ("expect_column_values_to_be_between_for_other_column_value", c.betweenForOther S),
    ("expect_column_values_to_be_in_set_for_other_column_value", c.inSetForOther S),
    ("expect_column_values_to_equal_other_column", c.equalOther S),
    ("expect_column_values_to_equal_other_column_case_insensitive",
      c.equalOtherCaseInsensitive S),
    ("expect_column_values_to_be_within_numeric_tolerance_of_other_column",
      c.withinNumericTolerance S),
    ("expect_column_timestamps_to_be_within_tolerance_of_other_column",
      c.timestampsWithinTolerance S),
    ("expect_column_values_to_be_null", c.beNull S),
    ("expect_column_proportion_of_non_null_values_to_be_between", c.nonNullProportion S),
    ("expect_column_values_to_be_in_set", c.inSet S false),
    ("expect_column_values_to_not_be_in_set", c.inSet S true),
    ("expect_column_values_to_be_between", c.between S false),
    ("expect_column_values_to_not_be_between", c.between S true),
    ("expect_column_values_to_match_regex", c.matchRegex S false),
    ("expect_column_values_to_not_match_regex", c.matchRegex S true),
    ("expect_column_values_to_be_within_past_days", c.withinPastDays S),
    ("expect_column_pair_values_to_have_max_lag_hours", c.maxLagHours S),
    ("expect_column_values_to_not_be_in_future", c.notInFuture S)]

/-- The branch of the expectation's type; a type without one is refused. -/
def branch (s : LoopState) : Except PyError Branch :=
  match (c.branches S).find? fun b => b.1.toList = c.expectationType with
  | some b => b.2 s
  | none =>
    .error (.execution
      ("Unsupported expectation_type '" ++ String.ofList c.expectationType ++ "'")
      "GX_WORKER_UNSUPPORTED_EXPECTATION" none none)

end Call

/-! ### The loop -/

section Loop

variable {Frame : Type} (S : Spark Frame)

/-- The number of rows that meet the failure condition, when there is one. -/
def countFailed (frame : Frame) : Option Column → Except PyError (Option ℕ)
  | some condition => do
    let failing ← S.filter frame condition
    let n ← S.count failing
    return some n
  | none => .ok none

/-- The row diagnostics, which need primary key fields and a failure condition. -/
def rowDiagnostics (primaryKeyFields : List Text) (c : Call Frame) :
    Option Column → Except PyError (List Dict)
  | some condition =>
    if primaryKeyFields = [] then .ok []
    else
      buildRowFailureDiagnostics S c.scopedDf condition primaryKeyFields c.index
        c.expectationType c.column
  | none => .ok []

/-- The end of the loop body: the rule result, the counters and the diagnostics. -/
def finishColumn (primaryKeyFields : List Text) (totalRowCount : ℕ) (c : Call Frame)
    (hasFailure : Bool) (failureCondition : Option Column) (s : LoopState) :
    Except PyError LoopState := do
  let (recordsChecked, s) ← getRowCount S c.scopedDf s
  let recordsFailed ← countFailed S c.scopedDf failureCondition
  let s := s.record
    (buildRuleResult c.index (!hasFailure) recordsChecked recordsFailed totalRowCount)
  if hasFailure = false then return s.pass
  else
    let s := { s with failed := s.failed + 1 }
    let found ← rowDiagnostics S primaryKeyFields c failureCondition
    if found ≠ [] then return { s with diagnostics := s.diagnostics ++ found }
    else
      let rowIdentifier ← firstRowIdentifier S c.scopedDf failureCondition primaryKeyFields
      let diagnostic := failedColumnDiagnostic c.index c.expectationType c.column ++
        rowIdentifierEntries rowIdentifier
      return { s with diagnostics := s.diagnostics ++ [diagnostic] }

/-- `int(min_value) <= row_count <= int(max_value)`, the second conversion only when needed. -/
def withinCounts (minValue maxValue : Json) (rowCount : ℕ) : Except PyError Bool := do
  let low ← convert "ValueError" "invalid literal for int()" minValue.toInt?
  if low ≤ rowCount then do
    let high ← convert "ValueError" "invalid literal for int()" maxValue.toInt?
    return decide ((rowCount : ℤ) ≤ high)
  else return false

/-- The row-count branch. -/
def rowCountBranch (index : ℕ) (expectationType : Text) (kwargs : Dict) (scopedDf : Frame)
    (s : LoopState) : Except PyError LoopState :=
  let minValue := kwargs.get "min_value"
  let maxValue := kwargs.get "max_value"
  if minValue.isNone ∨ maxValue.isNone then
    invalidExpectation expectationType "requires min_value and max_value"
  else do
    let (rowCount, s) ← getRowCount S scopedDf s
    let ok ← withinCounts minValue maxValue rowCount
    if ok then return s.pass
    else
      return s.fail [entry "reason" (.text "expectation_failed"),
        entry "expectation_index" (.int index),
        entry "expectation_type" (.scalar (.str expectationType)),
        entry "row_count" (.int rowCount), entry "min_value" minValue,
        entry "max_value" maxValue, entry "message" (.text "Row count expectation failed")]

/-- The branch of the compound uniqueness. -/
def compoundBranch (index : ℕ) (expectationType : Text) (kwargs : Dict) (dfColumns : List Text)
    (scopedDf : Frame) (s : LoopState) : Except PyError LoopState :=
  match (kwargs.get "columns").asList? with
  | some (column :: columns) =>
    let missingColumns := (presentTexts (column :: columns)).filter (· ∉ dfColumns)
    if missingColumns ≠ [] then
      .ok (s.fail (missingColumnsDiagnostic index expectationType missingColumns))
    else do
      let hasFailure ← S.repeats scopedDf (column :: columns)
      if hasFailure = false then return s.pass
      else
        return s.fail [entry "reason" (.text "expectation_failed"),
          entry "expectation_index" (.int index),
          entry "expectation_type" (.scalar (.str expectationType)),
          entry "columns" (.list (column :: columns)), entry "message" (.text "Expectation failed")]
  | _ => invalidExpectation expectationType "requires columns list"

/-- The branches about a named column. -/
def columnBranch (primaryKeyFields : List Text) (totalRowCount index : ℕ) (expectationType : Text)
    (kwargs : Dict) (dfColumns : List Text) (scopedDf : Frame) (s : LoopState) :
    Except PyError LoopState :=
  let column := ((kwargs.get "column").orElse (kwargs.get "column_A")).strippedText
  if column = [] then invalidExpectation expectationType "missing column"
  else if column ∉ dfColumns then do
    let rowIdentifier ← firstRowIdentifier S scopedDf (some (.lit (.scalar (.bool true))))
      primaryKeyFields
    return s.fail
      (missingColumnDiagnostic index expectationType column ++ rowIdentifierEntries rowIdentifier)
  else do
    let c : Call Frame := ⟨index, expectationType, kwargs, dfColumns, scopedDf, column⟩
    match ← c.branch S s with
    | .next s => return s
    | .tested hasFailure failureCondition =>
      finishColumn S primaryKeyFields totalRowCount c hasFailure failureCondition s

/-- The native branch of a run without primary key fields. -/
def nativeBranch (df : Frame) (index : ℕ) (expectation : Dict) (expectationType : Text)
    (kwargs : Dict) (dfColumns : List Text) (s : LoopState) : Except PyError LoopState :=
  let missingColumns :=
    (requiredColumnsForExpectation expectationType kwargs).filter (· ∉ dfColumns)
  if missingColumns ≠ [] then
    .ok (s.fail (missingColumnsDiagnostic index expectationType missingColumns))
  else do
    let outcome ← validate S df expectation
    return settleNative index expectationType s outcome

/-- `scoped_df`: the rows that meet the row condition, when there is one. -/
def scopedFrame (df : Frame) (rowCondition : Json) : Except PyError Frame :=
  if rowCondition.isNone then .ok df else S.filter df (.rowCondition rowCondition)

/-- The loop body. -/
def evaluateExpectation (df : Frame) (primaryKeyFields : List Text) (totalRowCount index : ℕ)
    (expectation : Dict) (s : LoopState) : Except PyError LoopState :=
  let expectationType := (expectation.get "expectation_type").strippedText
  let kwargs := (expectation.get "kwargs").dictOrEmpty
  let dfColumns := S.columns df
  if primaryKeyFields = [] ∧ supportsNativeGxExecution expectationType then
    nativeBranch S df index expectation expectationType kwargs dfColumns s
  else do
    let scopedDf ← scopedFrame S df (kwargs.get "row_condition")
    if expectationType = "expect_table_row_count_to_be_between" then
      rowCountBranch S index expectationType kwargs scopedDf s
    else if expectationType = "expect_compound_columns_to_be_unique" then
      compoundBranch S index expectationType kwargs dfColumns scopedDf s
    else if expectationType = "expect_query_results_to_match_comparison" then do
      let outcome ← validate S df expectation
      return settleNative index expectationType s outcome
    else
      columnBranch S primaryKeyFields totalRowCount index expectationType kwargs dfColumns
        scopedDf s

/-- The loop over the expectations that remain. -/
def evaluateFrom (df : Frame) (primaryKeyFields : List Text) (totalRowCount : ℕ) :
    ℕ → List Dict → LoopState → Except PyError LoopState
  | _, [], s => .ok s
  | index, expectation :: rest, s => do
    let s ← evaluateExpectation S df primaryKeyFields totalRowCount index expectation s
    evaluateFrom df primaryKeyFields totalRowCount (index + 1) rest s

/-- The `summary` of `evaluate_expectations_spark`, without its two empty timestamps. -/
structure EvaluationSummary where
  rowCount : ℕ
  expectationCount : ℕ
  passedExpectationCount : ℕ
  failedExpectationCount : ℕ
  ruleResults : List Dict

/-- `str(value).strip()` of the primary key fields, without the empty ones. -/
def normalizePrimaryKeyFields (fields : List Text) : List Text :=
  (fields.map Text.strip).filter (· ≠ [])

def evaluateExpectationsSpark (df : Frame) (expectations : List Dict)
    (primaryKeyFields : List Text) :
    Except PyError (Bool × EvaluationSummary × List Dict) := do
  let (totalRowCount, s) ← getRowCount S df ⟨0, 0, [], [], []⟩
  let s ← evaluateFrom S df (normalizePrimaryKeyFields primaryKeyFields) totalRowCount 0
    expectations s
  return (decide (s.failed = 0),
    ⟨totalRowCount, expectations.length, s.passed, s.failed, s.ruleResults⟩, s.diagnostics)

end Loop

end Worker

end DqMadeEasy
