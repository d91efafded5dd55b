import DqMadeEasy.Text.Value

/-!
# Check types

A rule is written as a check type with parameters. The parameters are validated before they are
stored, so each check type has a record of its own here, and what the validators demand of the
shape of a record is in its type: a contextual check carries either ranges or allowlists, and a
tolerance is resolved with its unit or not at all.

An attribute is a text as the author typed it. Nothing requires it to be a column name.
-/

namespace DqMadeEasy

/-- `SimpleConditionParams`. Its operator is always `equals`. -/
structure SimpleCondition where
  attributeName : Text
  value : Text
  deriving DecidableEq

/-- Metrics of a threshold check. -/
inductive Metric where
  | nullPct | emptyPct | defaultValPct | quantile
  deriving DecidableEq, Repr

/-- Operators of a threshold check. -/
inductive BoundOperator where
  | gt | gte | lt | lte
  deriving DecidableEq, Repr

/-- Operators of a row-count check. -/
inductive RowCountOperator where
  | gt | gte | lt | lte | between
  deriving DecidableEq, Repr

/-- Reference times of a freshness check. -/
inductive Anchor where
  | now | processingDate
  deriving DecidableEq, Repr

/-- Modes of a cross-object comparison. -/
inductive ComparisonMode where
  | exact | caseInsensitive | numericTolerance
  deriving DecidableEq, Repr

/-- Units of a resolved tolerance. -/
inductive ToleranceUnit where
  | minutes | hours | days
  deriving DecidableEq, Repr

/-- `ThresholdParams`. -/
structure ThresholdParams where
  attributeName : Text
  metric : Metric := .nullPct
  operator : BoundOperator := .gte
  threshold : PyFloat
  quantile : Option PyFloat := none
  deriving DecidableEq

/-- `RowCountParams`. -/
structure RowCountParams where
  operator : RowCountOperator := .gte
  threshold : Option ℕ := none
  minValue : Option ℕ := none
  maxValue : Option ℕ := none
  deriving DecidableEq

/-- `RegexParams`. -/
structure RegexParams where
  attributeName : Text
  pattern : Text
  flags : Text := []
  requirePresent : Bool := false
  condition : Option SimpleCondition := none
  deriving DecidableEq

/-- `RangeParams`. A bound is a number or a text, and `none` when it is absent. -/
structure RangeParams where
  attributeName : Text
  minValue : PyValue := .none
  maxValue : PyValue := .none
  inclusive : Bool := true
  condition : Option SimpleCondition := none
  deriving DecidableEq

/-- `AllowlistParams`. -/
structure AllowlistParams where
  attributeName : Text
  allowedValues : List Text
  caseSensitive : Bool := false
  condition : Option SimpleCondition := none
  deriving DecidableEq

/-- `BlocklistParams`. -/
structure BlocklistParams where
  attributeName : Text
  blockedValues : List Text
  caseSensitive : Bool := false
  deriving DecidableEq

/-- `UniquenessParams`. -/
structure UniquenessParams where
  attributes : List Text
  deriving DecidableEq

/-- `ReferentialIntegrityParams`. -/
structure ReferentialIntegrityParams where
  attributeName : Text
  refDataObjectId : Text
  refDataObjectVersionId : Text
  refAttribute : Text
  deriving DecidableEq

/-- `FreshnessParams`. -/
structure FreshnessParams where
  attributeName : Text
  maxDaysOld : ℤ
  anchor : Anchor := .now
  condition : Option SimpleCondition := none
  deriving DecidableEq

/-- `LagParams`. -/
structure LagParams where
  startAttribute : Text
  endAttribute : Text
  maxHours : ℤ
  deriving DecidableEq

/-- `FutureDateParams`. -/
structure FutureDateParams where
  attributeName : Text
  referenceDate : Option Text := none
  deriving DecidableEq

/-- `PresentParams`. -/
structure PresentParams where
  attributeName : Text
  blockedValues : List Text := []
  caseSensitive : Bool := false
  condition : Option SimpleCondition := none
  deriving DecidableEq

/-- `CrossObjectJoinKey`. -/
structure JoinKey where
  leftAttribute : Text
  rightAttribute : Text
  deriving DecidableEq

/-- `CrossObjectComparison`. The tolerance is there exactly in the numeric mode. -/
structure CrossObjectComparison where
  leftAttribute : Text
  rightAttribute : Text
  mode : ComparisonMode := .exact
  tolerance : Option PyFloat := none
  deriving DecidableEq

/-- `ActualityDateContract`: the tolerance is resolved together with its unit. -/
structure ActualityDate where
  leftAttribute : Text
  rightAttribute : Text
  contractId : Text
  resolvedTolerance : Option (ℕ × ToleranceUnit) := none
  deriving DecidableEq

/-- `CorrectParams`. -/
structure CorrectParams where
  sourceDataObjectVersionId : Text
  referenceDataObjectVersionId : Text
  joinKeys : List JoinKey
  comparison : CrossObjectComparison
  actualityDate : Option ActualityDate := none
  deriving DecidableEq

/-- `ReconcileParams`. -/
structure ReconcileParams where
  leftDataObjectVersionId : Text
  rightDataObjectVersionId : Text
  joinKeys : List JoinKey
  comparisons : List CrossObjectComparison
  actualityDate : Option ActualityDate := none
  deriving DecidableEq

/-- `PlausibleContextualRange`. -/
structure ContextualRange where
  contextValue : Text
  minValue : PyValue := .none
  maxValue : PyValue := .none
  inclusive : Bool := true
  deriving DecidableEq

/-- `PlausibleConditionalAllowlist`. -/
structure ContextAllowlist where
  contextValue : Text
  allowedValues : List Text
  caseSensitive : Bool := false
  deriving DecidableEq

/-- What a plausibility check carries in each of its two modes. -/
inductive PlausibleMode where
  | contextualRange (ranges : List ContextualRange)
  | conditionalAllowlist (allowlists : List ContextAllowlist)
  deriving DecidableEq

/-- `PlausibleParams`. -/
structure PlausibleParams where
  attributeName : Text
  contextAttribute : Text
  mode : PlausibleMode
  deriving DecidableEq

/-- What a transfer check carries in each of its two modes. -/
inductive TransferMode where
  | rowValueMatch (comparisons : List CrossObjectComparison)
  | payloadHashMatch (leftHashAttribute rightHashAttribute : Text)
  deriving DecidableEq

/-- `TransferMatchParams`. -/
structure TransferMatchParams where
  leftDataObjectVersionId : Text
  rightDataObjectVersionId : Text
  joinKeys : List JoinKey
  mode : TransferMode
  actualityDate : Option ActualityDate := none
  deriving DecidableEq

/-- `JoinConsistencyComparison`: its mode is never the numeric one. -/
structure JoinComparison where
  leftAttribute : Text
  rightAttribute : Text
  caseInsensitive : Bool := false
  deriving DecidableEq

/-- `JoinConsistencyParams`. -/
structure JoinConsistencyParams where
  leftDataObjectVersionId : Text
  rightDataObjectVersionId : Text
  joinKeys : List JoinKey
  comparisons : List JoinComparison
  actualityDate : ActualityDate
  deriving DecidableEq

/-- `RuleCheckTypeParams`: a check type with its parameters. -/
inductive CheckParams where
  | threshold (p : ThresholdParams)
  | rowCount (p : RowCountParams)
  | regex (p : RegexParams)
  | range (p : RangeParams)
  | allowlist (p : AllowlistParams)
  | blocklist (p : BlocklistParams)
  | uniqueness (p : UniquenessParams)
  | referentialIntegrity (p : ReferentialIntegrityParams)
  | freshness (p : FreshnessParams)
  | lag (p : LagParams)
  | futureDate (p : FutureDateParams)
  | present (p : PresentParams)
  | correct (p : CorrectParams)
  | reconcile (p : ReconcileParams)
  | plausibility (p : PlausibleParams)
  | transferMatch (p : TransferMatchParams)
  | joinConsistency (p : JoinConsistencyParams)
  deriving DecidableEq

namespace CheckParams

/-- The check types that compare two joined objects, `GX_JOIN_PAIR_CHECK_TYPES`. -/
def isJoinPair : CheckParams → Bool
  | .referentialIntegrity _ => true
  | .correct _ => true
  | .reconcile _ => true
  | .transferMatch _ => true
  | .joinConsistency _ => true
  | _ => false

def isConditionalAllowlist : CheckParams → Bool
  | .plausibility ⟨_, _, .conditionalAllowlist _⟩ => true
  | _ => false

/-- The value of `RuleCheckType`. -/
def typeName : CheckParams → String
  | .threshold _ => "THRESHOLD"
  | .rowCount _ => "ROW_COUNT"
  | .regex _ => "REGEX"
  | .range _ => "RANGE"
  | .allowlist _ => "ALLOWLIST"
  | .blocklist _ => "BLOCKLIST"
  | .uniqueness _ => "UNIQUENESS"
  | .referentialIntegrity _ => "REFERENTIAL_INTEGRITY"
  | .freshness _ => "FRESHNESS"
  | .lag _ => "LAG"
  | .futureDate _ => "FUTURE_DATE"
  | .present _ => "PRESENT"
  | .correct _ => "CORRECT"
  | .reconcile _ => "RECONCILE"
  | .plausibility _ => "PLAUSIBLE"
  | .transferMatch _ => "TRANSFER_MATCH"
  | .joinConsistency _ => "JOIN_CONSISTENCY"

end CheckParams

end DqMadeEasy
