import DqMadeEasy.Text.Json

/-!
# The semantic form of DSL rules

What the lowerers of DSL rules read of a document: its scope, the measure and the expectation. A
value of each type meets the validators of its model.
-/

namespace DqMadeEasy

namespace RuleDsl

/-! ### Scope -/

/-- `RuleDslIrDatasetScope`. -/
structure DatasetScope where
  dataObjectId : Option Text := none
  dataObjectVersionId : Option Text := none
  datasetId : Option Text := none
  dataProductId : Option Text := none
  /-- `_require_identifier`. -/
  identified : ∃ id ∈ [dataObjectId, dataObjectVersionId, datasetId, dataProductId],
    ∃ t, id = some t ∧ t ≠ []

/-- `RuleDslIrRowPredicate`. -/
structure RowPredicate where
  language : Text
  expression : Text

/-- `RuleDslIrScope`. Of the join, the time window and the comparison only their presence is
read. -/
structure Scope where
  dataset : Option DatasetScope := none
  rowFilter : Option RowPredicate := none
  join : Option Dict := none
  grouping : Option (List Text) := none
  timeWindow : Option Dict := none
  comparison : Option Dict := none

namespace Scope

/-- Whether a boundary other than the data set and the row filter is present. -/
def isComposite (scope : Scope) : Bool :=
  scope.join.isSome || scope.grouping.isSome || scope.timeWindow.isSome ||
    scope.comparison.isSome

end Scope

/-! ### Measures -/

/-- `RuleDslIrSubject`. -/
structure Subject where
  column : Option Text := none
  columns : Option (List Text) := none

/-- The metrics of a `RuleDslIrMetricMeasure`. -/
inductive Metric where
  | rowCount | missingCount | missingPercent | duplicateCount | duplicatePercent | distinctCount
  | min | max | avg | sum | stddev | quantile | freshnessAge | matchPercent
  deriving DecidableEq, Repr

/-- The clause that a `RuleDslIrSchemaMeasure` asks for. -/
inductive SchemaAssertion where
  | requiredColumnsPresent | forbiddenColumnsAbsent | columnTypesMatch | columnCountBetween
  | columnOrderMatches
  deriving DecidableEq, Repr

/-- `RuleDslIrMeasure`. -/
inductive Measure where
  | rowPredicate (predicate : RowPredicate)
  | metric (metric : Metric) (subject : Option Subject)
  | schema (schemaAssertion : SchemaAssertion)
  | query (query : Text) (comparisonDataSourceName comparisonQuery : Option Text)

/-! ### Expectations -/

inductive ThresholdOperator where
  | gt | gte | lt | lte | between
  deriving DecidableEq, Repr

inductive ThresholdUnit where
  | count | percent | duration | raw
  deriving DecidableEq, Repr

/-- `RuleDslIrThresholdExpectation`. -/
structure ThresholdExpectation where
  operator : ThresholdOperator
  value : PyValue := .none
  minValue : PyValue := .none
  maxValue : PyValue := .none
  unit : Option ThresholdUnit := none
  /-- `_validate_threshold_shape`. -/
  shape : if operator = .between then minValue ≠ .none ∧ maxValue ≠ .none else value ≠ .none

/-- `RuleDslIrSchemaContractExpectation`. -/
structure SchemaContractExpectation where
  requiredColumns : Option (List Text) := none
  forbiddenColumns : Option (List Text) := none
  expectedTypes : Option (List (Text × Text)) := none
  orderedColumns : Option (List Text) := none
  minColumnCount : Option ℕ := none
  maxColumnCount : Option ℕ := none
  /-- The keys of a dictionary are distinct. -/
  nodup_types : ∀ types ∈ expectedTypes, (types.map Prod.fst).Nodup
  /-- `_require_schema_clause`. -/
  hasClause : requiredColumns ≠ none ∨ forbiddenColumns ≠ none ∨
    (expectedTypes ≠ none ∧ expectedTypes ≠ some []) ∨ orderedColumns ≠ none ∨
    minColumnCount ≠ none ∨ maxColumnCount ≠ none

/-- `RuleDslIrExpectation`. -/
inductive Expectation where
  | threshold (expectation : ThresholdExpectation)
  | equality (mode : Text) (tolerance : Option PyFloat)
  | setMembership (allowedValues blockedValues : Option (List Text))
  | schemaContract (expectation : SchemaContractExpectation)
  | baseline (strategy : Text) (lookbackRuns : Option ℕ) (sensitivity : Option PyFloat)

/-- What the lowerers read of a `RuleDslIrRule`. -/
structure Rule where
  scope : Scope
  measure : Measure
  expectation : Expectation

end RuleDsl

end DqMadeEasy
