import DqMadeEasy.Gx.RowCondition

/-!
# Expectations

The expectations that cross from the rule service to the worker, one constructor for each
`expectation_type` with the arguments its builders write. A missing bound is `PyValue.none`, as
`kwargs.get` reads it. Types that differ only by a negation share a constructor.

An expectation may carry a row condition. Attaching a compiled filter conjoins its row condition
with the one already there, for the types that take row conditions.
-/

namespace DqMadeEasy

namespace Gx

/-- The bounds of a range, with their strictness. -/
structure Bounds where
  minValue : PyValue := .none
  maxValue : PyValue := .none
  strictMin : Bool := false
  strictMax : Bool := false
  deriving DecidableEq

/-- Aggregate metrics that have an expectation type of their own. -/
inductive Aggregate where
  | min | max | mean | sum | stdev | uniqueValueCount
  deriving DecidableEq, Repr

/-- An expectation type with its arguments, the row condition apart. -/
inductive ExpectationKind where
  | notBeNull (column : Text)
  | beNull (column : Text)
  | inSet (negated : Bool) (column : Text) (values : List PyValue)
  | between (negated : Bool) (column : Text) (bounds : Bounds)
  | nonNullProportion (column : Text) (bounds : Bounds)
  | inSetForOther (column otherColumn : Text) (otherValue : PyValue) (values : List PyValue)
      (caseSensitive : Bool)
  | pairEqual (columnA columnB ignoreRowIf : Text)
  | equalOtherCaseInsensitive (column otherColumn : Text)
  | withinNumericTolerance (column otherColumn : Text) (tolerance : PyFloat)
  | timestampsWithinTolerance (column otherColumn : Text) (maxDifference : ℤ)
      (differenceUnit : Text)
  | matchRegex (negated : Bool) (column regex : Text)
  | unique (column : Text)
  | compoundUnique (column : Text) (columns : List Text)
  | withinPastDays (column : Text) (maxDaysOld : ℤ) (anchor : Text)
  | maxLagHours (column startColumn : Text) (maxHours : ℤ)
  | notInFuture (column : Text) (referenceTime : Option Text)
  | rowCount (bounds : Bounds)
  | quantile (column : Text) (quantile : PyFloat) (lower upper : Option PyFloat)
  | aggregate (metric : Aggregate) (column : Text) (bounds : Bounds)
  | columnCount (bounds : Bounds)
  | columnsMatchOrder (columns : List Text)
  | ofType (column typeName : Text)
  | columnsMatchSet (columns : List Text) (exactMatch : Bool)
  | columnsNotContainSet (columns : List Text)
  | queryComparison (baseQuery dataSourceName comparisonQuery : Text) (mostly : PyFloat)
  deriving DecidableEq

/-- The `meta` of an expectation: keys are present for non-empty values only. -/
structure Meta where
  ruleId : Option Text := none
  artifactKey : Option Text := none
  deriving DecidableEq

def buildMeta (ruleId artifactKey : Option Text) : Meta where
  ruleId := ruleId.filter (!·.isEmpty)
  artifactKey := artifactKey.filter (!·.isEmpty)

/-- An expectation of a suite. -/
structure Expectation where
  kind : ExpectationKind
  rowCondition : Option Condition := none
  tags : Meta := {}
  deriving DecidableEq

namespace ExpectationKind

/-- The `expectation_type`. -/
def typeName : ExpectationKind → String
  | .notBeNull _ => "expect_column_values_to_not_be_null"
  | .beNull _ => "expect_column_values_to_be_null"
  | .inSet false _ _ => "expect_column_values_to_be_in_set"
  | .inSet true _ _ => "expect_column_values_to_not_be_in_set"
  | .between false _ _ => "expect_column_values_to_be_between"
  | .between true _ _ => "expect_column_values_to_not_be_between"
  | .nonNullProportion _ _ => "expect_column_proportion_of_non_null_values_to_be_between"
  | .inSetForOther _ _ _ _ _ => "expect_column_values_to_be_in_set_for_other_column_value"
  | .pairEqual _ _ _ => "expect_column_pair_values_to_be_equal"
  | .equalOtherCaseInsensitive _ _ =>
    "expect_column_values_to_equal_other_column_case_insensitive"
  | .withinNumericTolerance _ _ _ =>
    "expect_column_values_to_be_within_numeric_tolerance_of_other_column"
  | .timestampsWithinTolerance _ _ _ _ =>
    "expect_column_timestamps_to_be_within_tolerance_of_other_column"
  | .matchRegex false _ _ => "expect_column_values_to_match_regex"
  | .matchRegex true _ _ => "expect_column_values_to_not_match_regex"
  | .unique _ => "expect_column_values_to_be_unique"
  | .compoundUnique _ _ => "expect_compound_columns_to_be_unique"
  | .withinPastDays _ _ _ => "expect_column_values_to_be_within_past_days"
  | .maxLagHours _ _ _ => "expect_column_pair_values_to_have_max_lag_hours"
  | .notInFuture _ _ => "expect_column_values_to_not_be_in_future"
  | .rowCount _ => "expect_table_row_count_to_be_between"
  | .quantile _ _ _ _ => "expect_column_quantile_values_to_be_between"
  | .aggregate .min _ _ => "expect_column_min_to_be_between"
  | .aggregate .max _ _ => "expect_column_max_to_be_between"
  | .aggregate .mean _ _ => "expect_column_mean_to_be_between"
  | .aggregate .sum _ _ => "expect_column_sum_to_be_between"
  | .aggregate .stdev _ _ => "expect_column_stdev_to_be_between"
  | .aggregate .uniqueValueCount _ _ => "expect_column_unique_value_count_to_be_between"
  | .columnCount _ => "expect_table_column_count_to_be_between"
  | .columnsMatchOrder _ => "expect_table_columns_to_match_ordered_list"
  | .ofType _ _ => "expect_column_values_to_be_of_type"
  | .columnsMatchSet _ _ => "expect_table_columns_to_match_set"
  | .columnsNotContainSet _ => "expect_table_columns_to_not_contain_set"
  | .queryComparison _ _ _ _ => "expect_query_results_to_match_comparison"

/-- The `column` argument, or `column_A`, of an expectation. -/
def primaryColumn : ExpectationKind → Text
  | .notBeNull column => column
  | .beNull column => column
  | .inSet _ column _ => column
  | .between _ column _ => column
  | .nonNullProportion column _ => column
  | .inSetForOther column _ _ _ _ => column
  | .pairEqual columnA _ _ => columnA
  | .equalOtherCaseInsensitive column _ => column
  | .withinNumericTolerance column _ _ => column
  | .timestampsWithinTolerance column _ _ _ => column
  | .matchRegex _ column _ => column
  | .unique column => column
  | .compoundUnique column _ => column
  | .withinPastDays column _ _ => column
  | .maxLagHours column _ _ => column
  | .notInFuture column _ => column
  | .rowCount _ => []
  | .quantile column _ _ _ => column
  | .aggregate _ column _ => column
  | .columnCount _ => []
  | .columnsMatchOrder _ => []
  | .ofType column _ => column
  | .columnsMatchSet _ _ => []
  | .columnsNotContainSet _ => []
  | .queryComparison _ _ _ _ => []

/-- `_ROW_CONDITION_COMPATIBLE_EXPECTATION_TYPES`. -/
def takesRowCondition : ExpectationKind → Bool
  | .quantile _ _ _ _ => false
  | .aggregate _ _ _ => false
  | .columnCount _ => false
  | .columnsMatchOrder _ => false
  | .ofType _ _ => false
  | .columnsMatchSet _ _ => false
  | .columnsNotContainSet _ => false
  | .queryComparison _ _ _ _ => false
  | _ => true

/-- The expectation is about each row on its own. -/
def checksRows : ExpectationKind → Bool
  | .nonNullProportion _ _ => false
  | .unique _ => false
  | .compoundUnique _ _ => false
  | .rowCount _ => false
  | kind => kind.takesRowCondition

theorem takesRowCondition_of_checksRows {kind : ExpectationKind} (h : kind.checksRows = true) :
    kind.takesRowCondition = true := by
  cases kind <;> first | rfl | cases h

def isRowCount : ExpectationKind → Bool
  | .rowCount _ => true
  | _ => false

end ExpectationKind

/-- The loop body of `attach_gx_row_condition_to_expectations`: other types pass through, and so
does an expectation without a column, unless it counts rows. -/
def attachRowCondition (condition : Condition) (expectation : Expectation) : Expectation :=
  if !expectation.kind.takesRowCondition then expectation
  else if expectation.kind.primaryColumn.strip = [] ∧ !expectation.kind.isRowCount then expectation
  else
    { expectation with
      rowCondition := some (mergeRowConditions expectation.rowCondition condition) }

/-- `attach_gx_row_condition_to_expectations`. -/
def attachRowConditions [PyRuntime] (expectations : List Expectation)
    (payload : Option FilterPayload) : Except GxExpectationBuildError (List Expectation) :=
  match payload with
  | none => .ok expectations
  | some payload => do
    let artifact ← buildRowCondition payload
    .ok (expectations.map (attachRowCondition artifact.serializedCondition))

end Gx

end DqMadeEasy
